import Grc.Lib.Checks
import Grc.Lib.Runs
import Grc.Shared.Audit

/-! One bucket's counter for one key: every call adds it, counts it up and, where it has gone in between, sets it back to one.
Rate limiting is on and the key is not empty: otherwise no call counts. -/
namespace Grc.Identity.RateLimit

open Grc.Shared Grc.Lib

/-- Where a call of `enforce` stands: the cache command that comes next, or how it ended. -/
inductive Stage where
  /-- `cache.add`. -/
  | asked
  /-- `cache.incr`. -/
  | added
  /-- `ValueError`: `cache.set`. -/
  | gone
  | passed
  /-- `rate_limited`. -/
  | refused
  deriving DecidableEq

/-- The cached counter and the calls in the order they were made. `passed` is the desk's own account of the calls that passed since the counter
was created. -/
structure Desk where
  counter : Option Nat := none
  passed : Nat := 0
  calls : List Stage := []

inductive Step where
  | call
  /-- The next cache command of a call. -/
  | go (id : Nat)
  /-- The window ends. -/
  | expire

def notNow : Refusal := { code := "not_now", detail := "" }

/-- `count > limit`. -/
def decided (limit count : Nat) : Stage := if limit < count then .refused else .passed

def passedWith (limit count passed : Nat) : Nat := if limit < count then passed else passed + 1

def step (limit : Nat) (desk : Desk) : Step → Except Refusal Desk
  | .call => .ok { desk with calls := desk.calls ++ [.asked] }
  | .go id => do
    let stage ← demand desk.calls[id]? notNow
    match stage, desk.counter with
    | .asked, none => .ok { counter := some 0, passed := 0, calls := desk.calls.set id .added }
    | .asked, some _ => .ok { desk with calls := desk.calls.set id .added }
    | .added, none => .ok { desk with calls := desk.calls.set id .gone }
    | .added, some count =>
      .ok { counter := some (count + 1), passed := passedWith limit (count + 1) desk.passed, calls := desk.calls.set id (decided limit (count + 1)) }
    | .gone, none => .ok { counter := some 1, passed := passedWith limit 1 0, calls := desk.calls.set id (decided limit 1) }
    -- The counter another call created stays, with its number set back.
    | .gone, some _ => .ok { counter := some 1, passed := passedWith limit 1 desk.passed, calls := desk.calls.set id (decided limit 1) }
    | _, _ => .error notNow
  | .expire => .ok { desk with counter := none }

def Alone (desk : Desk) : Step → Prop
  | .go id => desk.calls[id]? = some .gone → desk.counter = none
  | _ => True

instance (desk : Desk) (call : Step) : Decidable (Alone desk call) := by
  unfold Alone
  split <;> infer_instance

/-- No more calls passed than the counter counts, nor than the limit. -/
structure Desk.Sound (limit : Nat) (desk : Desk) : Prop where
  counted : ∀ count ∈ desk.counter, desk.passed ≤ count
  within : desk.passed ≤ limit

variable {limit : Nat} {desk next : Desk}

theorem passedWith_le {count passed : Nat} (counted : passed ≤ count) (within : passed ≤ limit) :
    passedWith limit (count + 1) passed ≤ count + 1 ∧ passedWith limit (count + 1) passed ≤ limit := by
  unfold passedWith
  split <;> omega

theorem Desk.Sound.counts {count passed : Nat} {calls : List Stage} (counted : passed ≤ count) (within : passed ≤ limit) :
    ({ counter := some (count + 1), passed := passedWith limit (count + 1) passed, calls } : Desk).Sound limit := by
  obtain ⟨below, room⟩ := passedWith_le counted within
  exact ⟨fun _ its => Option.some.inj its ▸ below, room⟩

theorem Desk.Sound.step (sound : desk.Sound limit) {call : Step} (alone : Alone desk call)
    (accepted : RateLimit.step limit desk call = .ok next) : next.Sound limit := by
  cases call with
  | call =>
    cases accepted
    exact ⟨sound.counted, sound.within⟩
  | go id =>
    obtain ⟨stage, found, accepted⟩ := bind_ok.mp accepted
    rw [demand_ok] at found
    split at accepted
    · cases accepted
      exact ⟨fun _ _ => Nat.zero_le _, Nat.zero_le _⟩
    · cases accepted
      exact ⟨sound.counted, sound.within⟩
    · cases accepted
      exact ⟨sound.counted, sound.within⟩
    · rename_i count held
      cases accepted
      exact .counts (sound.counted count held) sound.within
    · cases accepted
      exact @Desk.Sound.counts limit 0 0 _ (Nat.zero_le _) (Nat.zero_le _)
    · rename_i held
      exact nomatch held.symm.trans (alone found)
    · cases accepted
  | expire =>
    cases accepted
    exact ⟨fun _ gone => (nomatch gone), sound.within⟩

/-- In every run in which a call sets the counter only while there is none, no more calls pass than the limit from the moment a counter is created
until it expires. -/
theorem passed_le_limit (limit : Nat) (steps : List Step) (meets : Meets (step limit) Alone {} steps) :
    (run (step limit) {} steps).passed ≤ limit :=
  (run_invariant_of_meets (⟨fun _ gone => (nomatch gone), Nat.zero_le _⟩ : ({} : Desk).Sound limit)
    (fun _ _ _ sound alone accepted => sound.step alone accepted) steps meets).within

/-- A call whose counter expired between its add and its increment, beside one that is refused. -/
theorem passed_le_one : (run (step 1) {} [.call, .go 0, .expire, .go 0, .go 0, .call, .go 1, .go 1]).passed ≤ 1 :=
  passed_le_limit 1 _ (by decide +kernel)

/-- The counter expires between a call's add and its increment, another call creates it anew and passes, and the first one sets it back. -/
theorem passed_twice : ¬(run (step 1) {} [.call, .go 0, .expire, .go 0, .call, .go 1, .go 1, .go 0]).passed ≤ 1 := by
  decide +kernel

end Grc.Identity.RateLimit
