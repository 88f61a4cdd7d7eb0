import Mathlib.Tactic.Basic
import Mathlib.Data.List.Forall2

/-!
# Statuses

`absl::Status` as the server passes it around: a canonical code and a message. `StatusOr α` is
`Except Status α`, and the error constructors are the `absl::*Error` functions the code calls.
The round trip through `google::rpc::Status` (`util/status_encoding.cc`) is modelled apart, with
raw codes and payloads.
-/

namespace Aviary

/-- The canonical `absl::StatusCode`s. -/
inductive StatusCode where
  | ok | cancelled | unknown | invalidArgument | deadlineExceeded | notFound | alreadyExists
  | permissionDenied | resourceExhausted | failedPrecondition | aborted | outOfRange
  | unimplemented | internal | unavailable | dataLoss | unauthenticated
  deriving DecidableEq, Repr

/-- A non-OK `absl::Status`: its code and its message. -/
structure Status where
  code : StatusCode
  message : String
  deriving DecidableEq, Repr

/-- `absl::StatusOr<α>`. -/
abbrev StatusOr (α : Type) := Except Status α

def invalidArgumentError (message : String) : Status := ⟨.invalidArgument, message⟩

def notFoundError (message : String) : Status := ⟨.notFound, message⟩

def permissionDeniedError (message : String) : Status := ⟨.permissionDenied, message⟩

def unavailableError (message : String) : Status := ⟨.unavailable, message⟩

def failedPreconditionError (message : String) : Status := ⟨.failedPrecondition, message⟩

def internalError (message : String) : Status := ⟨.internal, message⟩

def resourceExhaustedError (message : String) : Status := ⟨.resourceExhausted, message⟩

/-- `ASSIGN_OR_RETURN`: the value of an OK result, or the status of the first failing one. -/
theorem bind_eq_ok {α β : Type} {x : StatusOr α} {f : α → StatusOr β} {b : β} :
    x >>= f = .ok b ↔ ∃ a, x = .ok a ∧ f a = .ok b := by
  cases x <;> simp [bind, Except.bind]

theorem bind_eq_error {α β : Type} {x : StatusOr α} {f : α → StatusOr β} {e : Status} :
    x >>= f = .error e ↔ x = .error e ∨ ∃ a, x = .ok a ∧ f a = .error e := by
  cases x <;> simp [bind, Except.bind]

section Monad

variable {α β : Type}

@[simp] theorem ok_bind (a : α) (f : α → StatusOr β) : (.ok a : StatusOr α) >>= f = f a := rfl

@[simp] theorem error_bind (e : Status) (f : α → StatusOr β) :
    (.error e : StatusOr α) >>= f = .error e := rfl

@[simp] theorem map_ok (a : α) (f : α → β) : f <$> (.ok a : StatusOr α) = .ok (f a) := rfl

@[simp] theorem map_error (e : Status) (f : α → β) :
    f <$> (.error e : StatusOr α) = .error e := rfl

@[simp] theorem pure_eq_ok (a : α) : (pure a : StatusOr α) = .ok a := rfl

/-- A loop of `ASSIGN_OR_RETURN`s fails with the status of its first failing step. -/
theorem mapM_eq_error (f : α → StatusOr β) (l : List α) (e : Status) :
    l.mapM f = .error e ↔
      ∃ pre a post, l = pre ++ a :: post ∧ (∀ x ∈ pre, ∃ y, f x = .ok y) ∧ f a = .error e := by
  induction l with
  | nil =>
    simp only [List.mapM_nil, pure_eq_ok, reduceCtorEq, false_iff]
    rintro ⟨pre, a, post, h, -⟩
    simp at h
  | cons a l ih =>
    cases hf : f a with
    | error e' =>
      simp only [List.mapM_cons, hf, error_bind, Except.error.injEq]
      constructor
      · rintro rfl
        exact ⟨[], a, l, rfl, by simp, hf⟩
      · rintro ⟨_ | ⟨c, pre⟩, b, post, hl, hpre, hb⟩ <;>
          simp only [List.nil_append, List.cons_append, List.cons.injEq] at hl <;>
          obtain ⟨rfl, rfl⟩ := hl
        · simpa [hf] using hb
        · simpa [hf] using hpre _ (List.mem_cons_self _ _)
    | ok y =>
      simp only [List.mapM_cons, hf, ok_bind, bind_eq_error, pure_eq_ok, reduceCtorEq, and_false,
        exists_false, or_false, ih]
      constructor
      · rintro ⟨pre, b, post, rfl, hpre, hb⟩
        refine ⟨a :: pre, b, post, rfl, ?_, hb⟩
        rintro x (_ | ⟨_, hx⟩)
        · exact ⟨y, hf⟩
        · exact hpre x hx
      · rintro ⟨_ | ⟨c, pre⟩, b, post, hl, hpre, hb⟩ <;>
          simp only [List.nil_append, List.cons_append, List.cons.injEq] at hl <;>
          obtain ⟨rfl, rfl⟩ := hl
        · simp [hf] at hb
        · exact ⟨pre, b, post, rfl, fun x hx => hpre x (List.mem_cons_of_mem _ hx), hb⟩

theorem length_of_mapM_eq_ok {f : α → StatusOr β} :
    ∀ {l : List α} {r : List β}, l.mapM f = .ok r → r.length = l.length
  | [], r, h => by simp only [List.mapM_nil, pure_eq_ok, Except.ok.injEq] at h; simp [← h]
  | a :: l, r, h => by
    simp only [List.mapM_cons, bind_eq_ok, pure_eq_ok, Except.ok.injEq] at h
    obtain ⟨_, -, ys, hys, rfl⟩ := h
    simp [length_of_mapM_eq_ok hys]

/-- A loop of `ASSIGN_OR_RETURN`s that succeeds pairs each input with its output. -/
theorem forall₂_of_mapM_eq_ok {f : α → StatusOr β} :
    ∀ {l : List α} {r : List β}, l.mapM f = .ok r → List.Forall₂ (fun a b => f a = .ok b) l r
  | [], r, h => by
    simp only [List.mapM_nil, pure_eq_ok, Except.ok.injEq] at h
    simp [← h]
  | a :: l, r, h => by
    simp only [List.mapM_cons, bind_eq_ok, pure_eq_ok, Except.ok.injEq] at h
    obtain ⟨b, hb, bs, hbs, rfl⟩ := h
    exact .cons hb (forall₂_of_mapM_eq_ok hbs)

theorem mapM_eq_ok_iff {f : α → StatusOr β} {l : List α} {r : List β} :
    l.mapM f = .ok r ↔ List.Forall₂ (fun a b => f a = .ok b) l r := by
  refine ⟨forall₂_of_mapM_eq_ok, fun h => ?_⟩
  induction h with
  | nil => rfl
  | cons hab _ ih => simp only [List.mapM_cons, hab, ih, ok_bind, pure_eq_ok]

/-- A batch answered from the results of its invocations in order: every output when each of them
succeeds, and otherwise the status of the first that fails, with no output. -/
def AnswersInOrder (results : List (StatusOr α)) (answer : StatusOr (List α)) : Prop :=
  (∀ outputs, answer = .ok outputs ↔
    List.Forall₂ (fun result output => result = .ok output) results outputs) ∧
  ∀ e, answer = .error e ↔
    ∃ pre post, results = pre ++ .error e :: post ∧ ∀ result ∈ pre, ∃ output, result = .ok output

/-- A loop of `ASSIGN_OR_RETURN`s answers from its steps in order. -/
theorem answersInOrder_mapM (f : α → StatusOr β) (l : List α) :
    AnswersInOrder (l.map f) (l.mapM f) := by
  refine ⟨fun outputs => by rw [mapM_eq_ok_iff, List.forall₂_map_left_iff], fun e => ?_⟩
  rw [mapM_eq_error]
  constructor
  · rintro ⟨pre, a, post, rfl, hpre, ha⟩
    refine ⟨pre.map f, post.map f, by simp [ha], ?_⟩
    simpa using hpre
  · rintro ⟨pre, post, h, hpre⟩
    obtain ⟨pre', rest, rfl, rfl, hrest⟩ := List.map_eq_append_iff.mp h
    obtain ⟨a, post', rfl, ha, rfl⟩ := List.map_eq_cons_iff.mp hrest
    exact ⟨pre', a, post', rfl, by simpa using hpre, ha⟩

end Monad

/-! ## Empty strings -/

/-- A string of one or more characters is not empty. -/
theorem isEmpty_mk_of_ne_nil {cs : List Char} (h : cs ≠ []) : String.isEmpty ⟨cs⟩ = false := by
  obtain ⟨c, cs, rfl⟩ := List.exists_cons_of_ne_nil h
  have := c.utf8Size_pos
  simp only [String.isEmpty, String.endPos, String.utf8ByteSize, String.utf8ByteSize.go,
    beq_eq_false_iff_ne, ne_eq, String.Pos.ext_iff]
  show ¬_ = 0
  omega

/-- `empty()` holds only of the empty string. -/
theorem eq_empty_of_isEmpty {s : String} (h : s.isEmpty = true) : s = "" := by
  obtain ⟨_ | ⟨c, cs⟩⟩ := s
  · rfl
  · rw [isEmpty_mk_of_ne_nil (List.cons_ne_nil c cs)] at h
    cases h

end Aviary
