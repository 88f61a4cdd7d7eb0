import Mathlib.Data.List.Nodup
import Aviary.Util.Status

/-!
# Statuses on the wire

`util/status_encoding.cc` copies an `absl::Status` into a `google::rpc::Status` and back. Here a
status is what its interface shows (`AbslStatus`): a raw code, which may be any `int` and not only
a canonical one, a message, and payloads, at most one per type URL. An OK status has neither
message nor payloads, and `absl::Status` keeps its representation canonical, so `operator==`
compares exactly these: the raw code, the message, and the payloads in any order.
`ForEachPayload` visits the payloads in an order its interface leaves open, so
`saveStatusToProto` takes that order as an argument (`VisitOrder`). The raw code is an `int` and
the proto's code an `int32`, so the code is copied unchanged.

Whatever the status and the visit order, decoding what `SaveStatusToProto` wrote into a fresh proto
gives back an equal status (`statusFromProto_saveStatusToProto`). The other way, `StatusFromProto`
stores under each type URL the value of the last detail with it (`statusFromProto_payload`), so a
proto with a non-OK code and details of distinct type URLs comes back from decoding and encoding up
to the order of its details (`saveStatusToProto_statusFromProto`).
-/

namespace Aviary

/-! ## `absl::Status` -/

/-- A payload of a status: its type URL and its bytes. -/
structure Payload where
  typeUrl : String
  payload : String
  deriving DecidableEq, Repr

/-- `SetPayload` on the payloads of a non-OK status: replaces the payload stored under the same
type URL, or appends one. -/
def storePayload (payloads : List Payload) (p : Payload) : List Payload :=
  if payloads.any (·.typeUrl == p.typeUrl) then
    payloads.map fun q => if q.typeUrl = p.typeUrl then p else q
  else payloads ++ [p]

/-- A payload under a new type URL is appended. -/
theorem storePayload_of_new {payloads : List Payload} {p : Payload}
    (h : ∀ q ∈ payloads, q.typeUrl ≠ p.typeUrl) : storePayload payloads p = payloads ++ [p] := by
  unfold storePayload
  rw [if_neg (by simpa using h)]

theorem nodup_storePayload {payloads : List Payload} (h : (payloads.map Payload.typeUrl).Nodup)
    (p : Payload) : ((storePayload payloads p).map Payload.typeUrl).Nodup := by
  unfold storePayload
  split
  · rw [List.map_map]
    refine (List.map_congr_left fun q _ => ?_).symm ▸ h
    by_cases hq : q.typeUrl = p.typeUrl <;> simp [hq]
  · next hnew => simpa [List.nodup_append, h] using hnew

/-- After `storePayload`, the payload under a type URL is the new one if the URLs agree, and what
was stored before otherwise. -/
theorem find?_storePayload (payloads : List Payload) (p : Payload) (url : String) :
    ((storePayload payloads p).find? (·.typeUrl = url)).map Payload.payload =
      if p.typeUrl = url then some p.payload
      else (payloads.find? (·.typeUrl = url)).map Payload.payload := by
  unfold storePayload
  split
  · next hany =>
    have hpred : (fun q : Payload => decide (q.typeUrl = url)) ∘
        (fun q => if q.typeUrl = p.typeUrl then p else q) = fun q => decide (q.typeUrl = url) := by
      funext q
      by_cases hq : q.typeUrl = p.typeUrl <;> simp [hq]
    rw [List.find?_map, hpred]
    cases hq : payloads.find? (·.typeUrl = url) with
    | none =>
      have hurl : p.typeUrl ≠ url := by
        rintro rfl
        obtain ⟨x, hx, hxurl⟩ := List.any_eq_true.mp hany
        exact List.find?_eq_none.mp hq x hx (by simpa using hxurl)
      simp [hurl]
    | some q =>
      have hqurl : q.typeUrl = url := by simpa using List.find?_some hq
      by_cases hurl : p.typeUrl = url <;> simp [hurl, hqurl, Ne.symm]
  · next hnew =>
    rw [List.find?_append]
    by_cases hurl : p.typeUrl = url
    · rw [List.find?_eq_none.mpr (by simpa [hurl] using hnew)]
      simp [hurl]
    · simp [hurl]

/-- An `absl::Status`: its raw code, its message and its payloads. -/
structure AbslStatus where
  rawCode : Int
  message : String
  payloads : List Payload
  nodup_typeUrls : (payloads.map Payload.typeUrl).Nodup
  ok_empty : rawCode = 0 → message = "" ∧ payloads = []

namespace AbslStatus

/-- `absl::OkStatus()`. -/
def okStatus : AbslStatus := ⟨0, "", [], List.nodup_nil, fun _ => ⟨rfl, rfl⟩⟩

/-- `absl::Status(code, msg)`: an OK code drops the message. -/
def make (code : Int) (msg : String) : AbslStatus :=
  if h : code = 0 then okStatus else ⟨code, msg, [], List.nodup_nil, fun h' => absurd h' h⟩

theorem make_of_ne_zero {code : Int} (h : code ≠ 0) (msg : String) :
    make code msg = ⟨code, msg, [], List.nodup_nil, fun h' => absurd h' h⟩ :=
  dif_neg h

/-- `SetPayload`: nothing on an OK status. -/
def setPayload (s : AbslStatus) (typeUrl : String) (payload : String) : AbslStatus :=
  if h : s.rawCode = 0 then s
  else ⟨s.rawCode, s.message, storePayload s.payloads ⟨typeUrl, payload⟩,
    nodup_storePayload s.nodup_typeUrls _, fun h' => absurd h' h⟩

@[simp] theorem rawCode_setPayload (s : AbslStatus) (typeUrl payload : String) :
    (s.setPayload typeUrl payload).rawCode = s.rawCode := by
  unfold setPayload; split <;> rfl

@[simp] theorem message_setPayload (s : AbslStatus) (typeUrl payload : String) :
    (s.setPayload typeUrl payload).message = s.message := by
  unfold setPayload; split <;> rfl

theorem payloads_setPayload (s : AbslStatus) (hs : s.rawCode ≠ 0) (typeUrl payload : String) :
    (s.setPayload typeUrl payload).payloads = storePayload s.payloads ⟨typeUrl, payload⟩ := by
  simp [setPayload, hs]

/-- `operator==`: the same raw code, the same message and the same payloads, in any order. -/
instance : BEq AbslStatus :=
  ⟨fun a b => a.rawCode == b.rawCode && a.message == b.message && a.payloads.isPerm b.payloads⟩

theorem beq_eq_true_iff {a b : AbslStatus} :
    (a == b) = true ↔ a.rawCode = b.rawCode ∧ a.message = b.message ∧ a.payloads.Perm b.payloads := by
  show (a.rawCode == b.rawCode && a.message == b.message && a.payloads.isPerm b.payloads) = true ↔ _
  simp [List.isPerm_iff, and_assoc]

end AbslStatus

/-! ## `google::rpc::Status` -/

/-- A `google.protobuf.Any` holding bytes: its type url and its value. -/
structure AnyBytes where
  typeUrl : String := ""
  value : String := ""
  deriving DecidableEq, Repr

/-- A `google.rpc.Status`, with the proto defaults. -/
structure RpcStatus where
  code : Int := 0
  message : String := ""
  details : List AnyBytes := []
  deriving DecidableEq, Repr

/-- An order `ForEachPayload` may visit a status's payloads in: any order of them. -/
abbrev VisitOrder (s : AbslStatus) := {order : List Payload // order.Perm s.payloads}

/-- `SaveStatusToProto(s, proto)`, with `ForEachPayload` visiting in `visit`'s order. -/
def saveStatusToProto (s : AbslStatus) (visit : VisitOrder s) (proto : RpcStatus) : RpcStatus :=
  let proto := { proto with code := s.rawCode }
  let proto := if !s.message.isEmpty then { proto with message := s.message } else proto
  visit.1.foldl (fun proto p =>
    { proto with details := proto.details ++ [{ typeUrl := p.typeUrl, value := p.payload }] }) proto

def statusFromProto (proto : RpcStatus) : AbslStatus :=
  if proto.code = 0 then .okStatus
  else
    let ret := AbslStatus.make proto.code proto.message
    if proto.details.isEmpty then ret
    else proto.details.foldl (fun ret detail => ret.setPayload detail.typeUrl detail.value) ret

/-- `StatusFromProto` of a non-OK code: the `SetPayload` loop from `Status(code, message)`; the early
return for no details is what the loop gives. -/
theorem statusFromProto_of_ne_zero {proto : RpcStatus} (h : proto.code ≠ 0) :
    statusFromProto proto = proto.details.foldl
      (fun ret detail => ret.setPayload detail.typeUrl detail.value)
      (AbslStatus.make proto.code proto.message) := by
  unfold statusFromProto
  rw [if_neg h]
  split
  · next hempty => rw [List.isEmpty_iff.mp hempty]; rfl
  · rfl

/-! ## The round trip -/

/-- The `ForEachPayload` loop adds a detail per payload, in the visit order. -/
theorem foldl_addDetail (order : List Payload) (proto : RpcStatus) :
    order.foldl (fun proto p =>
      { proto with details := proto.details ++ [{ typeUrl := p.typeUrl, value := p.payload }] }) proto =
      { proto with details := proto.details ++ order.map fun p => ⟨p.typeUrl, p.payload⟩ } := by
  induction order generalizing proto with
  | nil => simp
  | cons p order ih => simp [ih]

/-- What `SaveStatusToProto` writes into a fresh proto: the raw code, the message, and a detail per
payload in the visit order. -/
theorem saveStatusToProto_fresh (s : AbslStatus) (visit : VisitOrder s) :
    saveStatusToProto s visit {} =
      ⟨s.rawCode, s.message, visit.1.map fun p => ⟨p.typeUrl, p.payload⟩⟩ := by
  unfold saveStatusToProto
  rw [foldl_addDetail]
  cases h : s.message.isEmpty
  · rfl
  · simp [eq_empty_of_isEmpty h]

/-- The `SetPayload` loop of `StatusFromProto`, on a non-OK status and payloads of new type URLs,
appends them in order. -/
theorem foldl_setPayload (s : AbslStatus) (hs : s.rawCode ≠ 0) (order : List Payload)
    (h : ((s.payloads ++ order).map Payload.typeUrl).Nodup) :
    let ret := (order.map fun p => (⟨p.typeUrl, p.payload⟩ : AnyBytes)).foldl
      (fun ret detail => ret.setPayload detail.typeUrl detail.value) s
    ret.rawCode = s.rawCode ∧ ret.message = s.message ∧ ret.payloads = s.payloads ++ order := by
  induction order generalizing s with
  | nil => simp
  | cons p order ih =>
    have hnew : ∀ q ∈ s.payloads, q.typeUrl ≠ p.typeUrl := by
      intro q hq hqp
      simp only [List.map_append, List.map_cons, List.nodup_append, List.nodup_cons] at h
      exact h.2.2 (List.mem_map_of_mem _ hq) (hqp ▸ List.mem_cons_self _ _)
    have hstep : (s.setPayload p.typeUrl p.payload).payloads = s.payloads ++ [p] := by
      rw [AbslStatus.payloads_setPayload s hs, storePayload_of_new hnew]
    simpa [hstep] using ih (s.setPayload p.typeUrl p.payload) (by simpa using hs)
      (by simpa [hstep] using h)

/-- Decoding what `SaveStatusToProto` wrote into a fresh proto gives back an equal status, whatever
order `ForEachPayload` visits the payloads in. -/
theorem statusFromProto_saveStatusToProto (s : AbslStatus) (visit : VisitOrder s) :
    (statusFromProto (saveStatusToProto s visit {}) == s) = true := by
  rw [AbslStatus.beq_eq_true_iff, saveStatusToProto_fresh]
  by_cases hok : s.rawCode = 0
  · obtain ⟨hmessage, hpayloads⟩ := s.ok_empty hok
    simp [statusFromProto, hok, hmessage, hpayloads, AbslStatus.okStatus]
  · rw [statusFromProto_of_ne_zero hok, AbslStatus.make, dif_neg hok]
    obtain ⟨hcode, hmessage, hpayloads⟩ :=
      foldl_setPayload ⟨s.rawCode, s.message, [], List.nodup_nil, fun h => absurd h hok⟩ hok visit.1
        ((visit.2.map _).nodup_iff.mpr s.nodup_typeUrls)
    exact ⟨hcode, hmessage, hpayloads ▸ visit.2⟩

example :
    let s : AbslStatus := ⟨5, "Entity not found", [⟨"a", "x"⟩, ⟨"b", "y"⟩], by decide, by decide⟩
    (statusFromProto (saveStatusToProto s ⟨[⟨"b", "y"⟩, ⟨"a", "x"⟩], by decide⟩ {}) == s) = true := by
  decide

/-! ## Decoding any proto -/

/-- The `SetPayload` loop keeps the code and the message. -/
theorem code_message_foldl_setPayload (details : List AnyBytes) (s : AbslStatus) :
    (details.foldl (fun ret detail => ret.setPayload detail.typeUrl detail.value) s).rawCode =
        s.rawCode ∧
      (details.foldl (fun ret detail => ret.setPayload detail.typeUrl detail.value) s).message =
        s.message := by
  induction details generalizing s with
  | nil => exact ⟨rfl, rfl⟩
  | cons d details ih => simp [ih]

/-- After the `SetPayload` loop on a non-OK status, the payload under a type URL is the value of the
last detail of that URL, or what was stored before when no detail has it. -/
theorem find?_foldl_setPayload (details : List AnyBytes) (s : AbslStatus) (hs : s.rawCode ≠ 0)
    (url : String) :
    ((details.foldl (fun ret detail => ret.setPayload detail.typeUrl detail.value) s).payloads.find?
        (·.typeUrl = url)).map Payload.payload =
      ((details.reverse.find? (·.typeUrl = url)).map AnyBytes.value).or
        ((s.payloads.find? (·.typeUrl = url)).map Payload.payload) := by
  induction details generalizing s with
  | nil => simp
  | cons d details ih =>
    rw [List.foldl_cons, ih _ (by simpa using hs), AbslStatus.payloads_setPayload s hs,
      find?_storePayload, List.reverse_cons, List.find?_append]
    by_cases hurl : d.typeUrl = url <;> cases details.reverse.find? (·.typeUrl = url) <;>
      simp [hurl]

/-- `StatusFromProto` of a non-OK code keeps the code and the message, and stores under each type
URL the value of the last detail with that URL, and nothing under any other. -/
theorem statusFromProto_payload (proto : RpcStatus) (hcode : proto.code ≠ 0) (url : String) :
    (statusFromProto proto).rawCode = proto.code ∧ (statusFromProto proto).message = proto.message ∧
      ((statusFromProto proto).payloads.find? (·.typeUrl = url)).map Payload.payload =
        (proto.details.reverse.find? (·.typeUrl = url)).map AnyBytes.value := by
  have hmake := AbslStatus.make_of_ne_zero hcode proto.message
  obtain ⟨hcode', hmessage⟩ := code_message_foldl_setPayload proto.details
    (AbslStatus.make proto.code proto.message)
  rw [statusFromProto_of_ne_zero hcode, hcode', hmessage, hmake, find?_foldl_setPayload _ _ hcode]
  exact ⟨rfl, rfl, by simp⟩

theorem statusFromProto_payload_duplicate :
    (⟨5, "Entity not found", [⟨"a", "x"⟩, ⟨"a", "y"⟩]⟩ : RpcStatus).code ≠ 0 ∧
      (statusFromProto ⟨5, "Entity not found", [⟨"a", "x"⟩, ⟨"a", "y"⟩]⟩).rawCode = 5 ∧
      (statusFromProto ⟨5, "Entity not found", [⟨"a", "x"⟩, ⟨"a", "y"⟩]⟩).message =
        "Entity not found" ∧
      ((statusFromProto ⟨5, "Entity not found", [⟨"a", "x"⟩, ⟨"a", "y"⟩]⟩).payloads.find?
          (·.typeUrl = "a")).map Payload.payload =
        (([⟨"a", "x"⟩, ⟨"a", "y"⟩] : List AnyBytes).reverse.find? (·.typeUrl = "a")).map
          AnyBytes.value :=
  ⟨by decide, statusFromProto_payload ⟨5, "Entity not found", [⟨"a", "x"⟩, ⟨"a", "y"⟩]⟩ (by decide) "a"⟩

/-- Encoding what `StatusFromProto` decoded gives the proto back, up to the order of its details,
when the code is not OK and no two details share a type URL. -/
theorem saveStatusToProto_statusFromProto (proto : RpcStatus) (hcode : proto.code ≠ 0)
    (hnodup : (proto.details.map AnyBytes.typeUrl).Nodup) (visit : VisitOrder (statusFromProto proto)) :
    ∃ details, details.Perm proto.details ∧
      saveStatusToProto (statusFromProto proto) visit {} = { proto with details := details } := by
  have hmake := AbslStatus.make_of_ne_zero hcode proto.message
  have hdetails : (proto.details.map fun d => (⟨d.typeUrl, d.value⟩ : Payload)).map
      (fun p => (⟨p.typeUrl, p.payload⟩ : AnyBytes)) = proto.details := by
    simp [List.map_map, Function.comp_def]
  obtain ⟨order, horder⟩ := visit
  have hfold := foldl_setPayload (AbslStatus.make proto.code proto.message) (by rw [hmake]; exact hcode)
    (proto.details.map fun d => ⟨d.typeUrl, d.value⟩)
    (by simpa [hmake, List.map_map, Function.comp_def] using hnodup)
  rw [hdetails, ← statusFromProto_of_ne_zero hcode, hmake] at hfold
  obtain ⟨hcode', hmessage, hpayloads⟩ := hfold
  rw [saveStatusToProto_fresh, hcode', hmessage]
  exact ⟨_, (horder.map _).trans (by rw [hpayloads, List.nil_append, hdetails]), rfl⟩

theorem saveStatusToProto_statusFromProto_two :
    (⟨5, "Entity not found", [⟨"a", "x"⟩, ⟨"b", "y"⟩]⟩ : RpcStatus).code ≠ 0 ∧
      ([⟨"a", "x"⟩, ⟨"b", "y"⟩].map AnyBytes.typeUrl).Nodup ∧
      ∃ details : List AnyBytes, details.Perm [⟨"a", "x"⟩, ⟨"b", "y"⟩] ∧
        saveStatusToProto (statusFromProto ⟨5, "Entity not found", [⟨"a", "x"⟩, ⟨"b", "y"⟩]⟩)
            ⟨_, List.Perm.refl _⟩ {} =
          { (⟨5, "Entity not found", [⟨"a", "x"⟩, ⟨"b", "y"⟩]⟩ : RpcStatus) with details := details } :=
  ⟨by decide, by decide, saveStatusToProto_statusFromProto
    ⟨5, "Entity not found", [⟨"a", "x"⟩, ⟨"b", "y"⟩]⟩ (by decide) (by decide) ⟨_, List.Perm.refl _⟩⟩

end Aviary
