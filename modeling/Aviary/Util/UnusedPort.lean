import Mathlib.Data.List.Chain
import Aviary.Util.Status

/-!
# An unused port

`FindUnusedPort` of `util/unused_port.cc`, which the tests call for the port a server is then
bound to. A call reads the ephemeral port range from `/proc/sys/net/ipv4/ip_local_port_range`,
starts at the global `next_port_` (at `kFirstUserPort` while that is 0), and probes up to
`kMaxTries` ports with `IsPortAvailable`, going up by one and back to `kFirstUserPort` on reaching
the first ephemeral port. It returns the first port found available and sets `next_port_` to the
one after it; a failed call leaves `next_port_` as it was. Ports and `next_port_` are C++ `int`s
(`toCInt`): `next_port_` wraps to `INT_MIN` after a call returns `INT_MAX`.

`IsPortAvailable` stores the port in `sin_port` without `htons`, so `bind` reads its two bytes in
network order: on the x86-64 build host it is offered the port with its bytes swapped (`sinPort`).

Over any run of calls that read one range with more than ten ports below it, and too short for
`next_port_` to come near `INT_MAX`, every port returned is at least 1024 and differs from the one
the previous successful call returned, and it is below the ephemeral range unless it is the port
right after that one, which a call probes first without looking at the range
(`findUnusedPorts_chain`). A call returns the port right after the previous one whenever that one
is free, so a longer run can climb to `INT_MAX` and wrap below 1024.
-/

namespace Aviary

def kFirstUserPort : Int := 1024

def kMaxTries : Nat := 10

/-- The value a C++ `int` holds of an integer: its two's complement on 32 bits, signed overflow
wrapping as the build's x86-64 code does (`2 ^ 31` and `2 ^ 32` written out for `omega`). -/
def toCInt (n : Int) : Int := (n + 2147483648) % 4294967296 - 2147483648

theorem toCInt_of_lt {n : Int} (hlo : -2147483648 ≤ n) (hhi : n < 2147483648) : toCInt n = n := by
  unfold toCInt; omega

/-- What the socket calls of `IsPortAvailable` give: whether `socket` and `setsockopt` succeed,
and for each port, as `bind` reads it, whether `bind` to it on every address and `listen`
succeed. -/
structure Sockets where
  socketOk : Bool
  listens : Int → Bool

/-- The port `bind` reads after `addr.sin_port = port`: `port` converted to the 16-bit
`in_port_t`, whose bytes, the low one first on x86-64, are read in network order. -/
def sinPort (port : Int) : Int := port % 65536 % 256 * 256 + port % 65536 / 256

/-- The first port `FindUnusedPort` tries is offered to `bind` as port 4. -/
example : sinPort kFirstUserPort = 4 := by decide

def isPortAvailable (sockets : Sockets) (port : Int) : Bool :=
  sockets.socketOk && sockets.listens (sinPort port)

/-- `if (++port >= min_ephemeral_port) port = kFirstUserPort;` on the `int` `port`. -/
def nextProbe (minEphemeralPort port : Int) : Int :=
  if toCInt (port + 1) ≥ minEphemeralPort then kFirstUserPort else toCInt (port + 1)

/-- The `for` loop of `FindUnusedPort` with `triesLeft` tries left, about to probe `port`: the port
found available, or none once the tries run out. -/
def probePorts (sockets : Sockets) (minEphemeralPort : Int) : Nat → Int → Option Int
  | 0, _ => none
  | triesLeft + 1, port =>
    if isPortAvailable sockets port then some port
    else probePorts sockets minEphemeralPort triesLeft (nextProbe minEphemeralPort port)

/-- What a call of `FindUnusedPort` meets: the two numbers its stream reads from the range file,
none when the read fails, and the sockets. -/
structure PortEnvironment where
  portRange : Option (Int × Int)
  sockets : Sockets

/-- The first port a call probes: `next_port_`, or `kFirstUserPort` while that is 0. -/
def firstProbe (nextPort : Int) : Int := if nextPort = 0 then kFirstUserPort else nextPort

/-- `FindUnusedPort()` with `next_port_ = nextPort`: the result, and `next_port_` after it. -/
def findUnusedPort (env : PortEnvironment) (nextPort : Int) : StatusOr Int × Int :=
  match env.portRange with
  | none => (.error (resourceExhaustedError "Unable to get ephemeral port range."), nextPort)
  | some (minEphemeralPort, _) =>
    match probePorts env.sockets minEphemeralPort kMaxTries (firstProbe nextPort) with
    | some port => (.ok port, toCInt (port + 1))
    | none => (.error (resourceExhaustedError "Unable to find an unused TCP port."), nextPort)

/-- Calls one after another from `next_port_ = nextPort`, each in its own environment: their
results. -/
def findUnusedPorts : Int → List PortEnvironment → List (StatusOr Int)
  | _, [] => []
  | nextPort, env :: envs =>
    (findUnusedPort env nextPort).1 :: findUnusedPorts (findUnusedPort env nextPort).2 envs

/-- From `next_port_ = INT_MAX`, a call that finds that port free leaves `next_port_` at `INT_MIN`,
and the next call returns that port. -/
example :
    findUnusedPorts 2147483647 [⟨some (32768, 60999), ⟨true, fun _ => true⟩⟩,
      ⟨some (32768, 60999), ⟨true, fun _ => true⟩⟩] = [.ok 2147483647, .ok (-2147483648)] := rfl

/-! ## One call -/

/-- A call that returns a port found it with its probe loop, and leaves `next_port_` after it; a
failed call leaves `next_port_` as it was. -/
theorem findUnusedPort_cases (env : PortEnvironment) (nextPort : Int) :
    (∃ port minEphemeralPort maxEphemeralPort,
        env.portRange = some (minEphemeralPort, maxEphemeralPort) ∧
        probePorts env.sockets minEphemeralPort kMaxTries (firstProbe nextPort) = some port ∧
        findUnusedPort env nextPort = (.ok port, toCInt (port + 1))) ∨
      ∃ e, findUnusedPort env nextPort = (.error e, nextPort) := by
  unfold findUnusedPort
  split
  · exact .inr ⟨_, rfl⟩
  · next minEphemeralPort maxEphemeralPort hrange =>
    split
    · next port hport => exact .inl ⟨port, minEphemeralPort, maxEphemeralPort, hrange, hport, rfl⟩
    · exact .inr ⟨_, rfl⟩

/-- How many probes from `port` reach `p` when both are in the user range: up to it, or round
through `kFirstUserPort`. -/
def probesUntil (minEphemeralPort p port : Int) : Int :=
  if port ≤ p then p - port else minEphemeralPort - port + p - kFirstUserPort

section Probes

variable {sockets : Sockets} {minEphemeralPort p : Int}

/-- Probing from a port of the user range `[kFirstUserPort, minEphemeralPort)` stays in it, and
misses `p` while fewer probes are left than it takes to come round to `p`. -/
theorem probePorts_avoids (hp : kFirstUserPort - 1 ≤ p) (hpmin : p < minEphemeralPort)
    (hmax : minEphemeralPort < 2147483648) :
    ∀ {triesLeft : Nat} {port q : Int}, kFirstUserPort ≤ port → port < minEphemeralPort →
      triesLeft ≤ probesUntil minEphemeralPort p port →
      probePorts sockets minEphemeralPort triesLeft port = some q →
      kFirstUserPort ≤ q ∧ q < minEphemeralPort ∧ q ≠ p
  | 0, _, _, _, _, _, h => nomatch h
  | triesLeft + 1, port, q, hlo, hhi, hleft, h => by
    unfold probePorts at h
    split at h
    · cases h
      refine ⟨hlo, hhi, fun hq => ?_⟩
      simp only [probesUntil, hq, Int.le_refl, if_true, Int.sub_self] at hleft
      omega
    · refine probePorts_avoids hp hpmin hmax ?_ ?_ ?_ h <;>
        unfold nextProbe toCInt probesUntil kFirstUserPort at * <;> split_ifs at * <;> omega

/-- What the port a call returns has to do with the port `prev` the previous successful call
returned: it is another port, at least `kFirstUserPort`, and below the ephemeral range unless it is
the port right after `prev`. -/
def FollowsPort (minEphemeralPort prev port : Int) : Prop :=
  port ≠ prev ∧ kFirstUserPort ≤ port ∧ (port < minEphemeralPort ∨ port = prev + 1)

/-- The loop started right after `prev` returns a port that follows it, when the user range has
more ports than the loop has tries. -/
theorem probePorts_followsPort {prev q : Int} (hwide : kFirstUserPort + kMaxTries < minEphemeralPort)
    (hmax : minEphemeralPort < 2147483648) (hprev : kFirstUserPort - 1 ≤ prev)
    (hroom : prev + 2 < 2147483648)
    (h : probePorts sockets minEphemeralPort kMaxTries (prev + 1) = some q) :
    FollowsPort minEphemeralPort prev q := by
  unfold kMaxTries at hwide h
  by_cases hlow : prev + 1 < minEphemeralPort
  · obtain ⟨hlo, hhi, hne⟩ := probePorts_avoids (p := prev) hprev (by omega) hmax (by omega) hlow
      (by unfold probesUntil kFirstUserPort at *; split_ifs <;> omega) h
    exact ⟨hne, hlo, .inl hhi⟩
  · unfold probePorts at h
    split at h
    · cases h
      exact ⟨by omega, by omega, .inr rfl⟩
    · rw [nextProbe, toCInt_of_lt (by unfold kFirstUserPort at hprev; omega) (by omega),
        if_pos (by omega)] at h
      obtain ⟨hlo, hhi, hne⟩ := probePorts_avoids (p := minEphemeralPort - 1) (by omega) (by omega)
        hmax (Int.le_refl _) (by omega)
        (by unfold probesUntil kFirstUserPort at *; split_ifs <;> omega) h
      exact ⟨by omega, hlo, .inl hhi⟩

end Probes

/-! ## Runs -/

theorem chain_findUnusedPorts {minEphemeralPort maxEphemeralPort : Int}
    (hwide : kFirstUserPort + kMaxTries < minEphemeralPort) :
    ∀ {envs : List PortEnvironment} {nextPort prev : Int},
      (∀ env ∈ envs, env.portRange = some (minEphemeralPort, maxEphemeralPort)) →
      minEphemeralPort + envs.length ≤ 2147483648 → prev + envs.length < 2147483647 →
      kFirstUserPort - 1 ≤ prev → firstProbe nextPort = prev + 1 →
      ((findUnusedPorts nextPort envs).filterMap Except.toOption).Chain
        (FollowsPort minEphemeralPort) prev
  | [], _, _, _, _, _, _, _ => List.Chain.nil
  | env :: envs, nextPort, prev, hrange, hmin, hroom, hprev, hnext => by
    have hrange' : ∀ env ∈ envs, env.portRange = some (minEphemeralPort, maxEphemeralPort) :=
      fun env henv => hrange env (List.mem_cons_of_mem _ henv)
    simp only [List.length_cons] at hmin hroom
    rcases findUnusedPort_cases env nextPort with
      ⟨port, minEphemeralPort', maxEphemeralPort', hportRange, hport, hcall⟩ | ⟨e, hcall⟩
    · rw [hrange env (List.mem_cons_self _ _), Option.some.injEq, Prod.mk.injEq] at hportRange
      obtain ⟨rfl, rfl⟩ := hportRange
      rw [hnext] at hport
      have hfollows := probePorts_followsPort hwide (by omega) hprev (by omega) hport
      unfold FollowsPort at hfollows
      have hwrap : toCInt (port + 1) = port + 1 := toCInt_of_lt (by unfold kFirstUserPort at *; omega)
        (by omega)
      have hfirst : firstProbe (toCInt (port + 1)) = port + 1 := by
        unfold firstProbe kFirstUserPort at *
        rw [hwrap]
        split_ifs <;> omega
      simp only [findUnusedPorts, hcall, List.filterMap_cons, Except.toOption, List.chain_cons]
      exact ⟨hfollows, chain_findUnusedPorts hwide hrange' (by omega) (by omega) (by omega) hfirst⟩
    · simp only [findUnusedPorts, hcall, List.filterMap_cons, Except.toOption]
      exact chain_findUnusedPorts hwide hrange' (by omega) (by omega) hprev hnext

/-- Over a run of calls from the start, all reading one range with more than ten ports below it,
and with few enough calls that `next_port_` stays below `INT_MAX` (the start of the range and their
number add up to at most `2 ^ 31`), each port returned follows the one the previous successful call
returned (1023 before the first): it differs from it, it is at least 1024, and it is below the
ephemeral range unless it is the port right after it. -/
theorem findUnusedPorts_chain (envs : List PortEnvironment) {minEphemeralPort maxEphemeralPort : Int}
    (hrange : ∀ env ∈ envs, env.portRange = some (minEphemeralPort, maxEphemeralPort))
    (hwide : kFirstUserPort + kMaxTries < minEphemeralPort)
    (hroom : minEphemeralPort + envs.length ≤ 2147483648) :
    ((findUnusedPorts 0 envs).filterMap Except.toOption).Chain (FollowsPort minEphemeralPort)
      (kFirstUserPort - 1) :=
  chain_findUnusedPorts hwide hrange (by omega) (by unfold kFirstUserPort kMaxTries at *; omega)
    (Int.le_refl _) (by decide)

theorem findUnusedPorts_chain_two :
    (∀ env ∈ [⟨some (32768, 60999), ⟨true, fun _ => true⟩⟩, ⟨some (32768, 60999), ⟨true, fun _ => true⟩⟩],
        PortEnvironment.portRange env = some (32768, 60999)) ∧
      kFirstUserPort + kMaxTries < 32768 ∧
      32768 + ([⟨some (32768, 60999), ⟨true, fun _ => true⟩⟩,
        ⟨some (32768, 60999), ⟨true, fun _ => true⟩⟩] : List PortEnvironment).length ≤ 2147483648 ∧
      ((findUnusedPorts 0 [⟨some (32768, 60999), ⟨true, fun _ => true⟩⟩,
          ⟨some (32768, 60999), ⟨true, fun _ => true⟩⟩]).filterMap Except.toOption).Chain
        (FollowsPort 32768) (kFirstUserPort - 1) :=
  ⟨by decide, by decide, by decide, @findUnusedPorts_chain _ 32768 60999 (by decide) (by decide) (by decide)⟩

end Aviary
