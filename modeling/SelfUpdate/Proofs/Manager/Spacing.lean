import Mathlib.Logic.Relation
import SelfUpdate.Proofs.Manager.Installs
import SelfUpdate.Proofs.Manager.Requests

/-!
# Checks keep their distance

A diary of a manager notes when it has attempted checks. The policy in memory always knows the last of
these attempts, whatever became of it, and so a check that the manager makes by itself keeps a day's
distance from the attempt before it. Of several that are asked for together one is made at most.
-/

namespace SelfUpdate

/-- The distance is measured exactly: where it does not fit 64 bits, its sign decides. -/
theorem Throttle.isDue_iff {last now : Int64} :
    isDue last now = true ↔ 86400000 ≤ now.toInt - last.toInt := by
  have low : Int64.minValue.toInt = -2 ^ 63 := rfl
  have high : Int64.maxValue.toInt = 2 ^ 63 - 1 := rfl
  have day : interval.toInt = 86400000 := rfl
  rw [isDue, decide_eq_true_eq, Int64.le_iff_toInt_le, day, elapsed, Int64.ofIntClamp]
  split
  · split
    · rw [Int64.toInt_ofIntLE]
    · rw [high]
      omega
  · rw [low]
    omega

namespace Manager

/-- An attempt at a check: whether the manager made it by itself, and what the clock showed. -/
structure Attempt where
  automatic : Bool
  clock : Int64
  deriving DecidableEq, Repr

/-- The attempt that a call has made. -/
def Pending.attempt? (clock : Int64) : Pending → Option Attempt
  | .check _ => some ⟨false, clock⟩
  | .dueCheck _ => some ⟨true, clock⟩
  | _ => none

/-- A manager and its attempts at checks, the oldest first. -/
structure Diary where
  manager : Manager
  world : World
  attempts : List Attempt

namespace Diary

def opening (manager : Manager) (world : World) : Diary := ⟨manager, world, []⟩

/-- The diary once a call was begun. -/
def begin (diary : Diary) (call : Call) : Diary :=
  let ((pending, manager), world) := call.begin diary.manager diary.world
  ⟨manager, world, diary.attempts ++ (pending.attempt? diary.world.clock).toList⟩

end Diary

/-- What can happen to a manager. The workers and others may change anything, the clock too, but the
policy in memory. -/
inductive Passes : Diary → Diary → Prop where
  | call {diary : Diary} (call : Call) : Passes diary (diary.begin call)
  | meanwhile {diary : Diary} {manager : Manager} {world : World}
      (policy : manager.policy = diary.manager.policy) :
      Passes diary { diary with manager := manager, world := world }

abbrev Passages : Diary → Diary → Prop := Relation.ReflTransGen Passes

/-- When the last check was attempted, the policy that was loaded counting as the first attempt. -/
def latest (loaded : Policy) (attempts : List Attempt) : Int64 :=
  (attempts.getLast?.map Attempt.clock).getD loaded.lastCheck

@[simp] theorem latest_concat (loaded : Policy) (attempts : List Attempt) (attempt : Attempt) :
    latest loaded (attempts ++ [attempt]) = attempt.clock := by
  simp [latest]

variable {manager : Manager} {world : World}

/-! ## What calls do to the policy -/

/-- A check is noted in memory whether or not it can be kept, and given to the checker whether or not
that still takes it. -/
theorem beginCheck_run (manager : Manager) (world : World) :
    (beginCheck manager world).1.1 = manager.checker.next ∧
      (beginCheck manager world).1.2.policy = { manager.policy with lastCheck := world.clock } ∧
      (beginCheck manager world).1.2.checker =
        manager.checker.submit ⟨manager.effectiveUrl, manager.current⟩ := by
  rw [beginCheck_fst]
  exact ⟨rfl, rfl, rfl⟩

theorem silent_bounded : Bounded (fun _ => True) .silent := .of_loose Frame.silent_loose

/-- Only the disk and the log have changed when a check was begun. -/
theorem beginCheck_queried (manager : Manager) (world : World) :
    world.Queried [] (beginCheck manager world).2 :=
  (silent_bounded.beginCheck manager world trivial trivial).1.rel

/-- Whether a manager makes a check by itself. -/
def ChecksItself (manager : Manager) (clock : Int64) : Prop :=
  manager.policy.autoCheck = true ∧ 86400000 ≤ clock.toInt - manager.policy.lastCheck.toInt

/-- A check that is not due is not begun: there is a record of it, and nothing else. -/
theorem begin_skips (early : ¬ manager.ChecksItself world.clock) :
    ∃ text, Call.checkIfDue.begin manager world =
      ((.nothing (.checkedIfDue (.ok none)), manager), (log .debug text world).2) := by
  simp only [Call.begin, beginDueCheck, Session.bind_run, Session.get_run]
  by_cases enabled : manager.policy.autoCheck = true
  · simp only [enabled, Bool.not_true, Bool.false_eq_true, if_false, Session.bind_run,
      Session.getWorld_run]
    have late : manager.isCheckDue world.clock = false := by
      rw [isCheckDue, Bool.eq_false_iff, ne_eq, Throttle.isDue_iff]
      exact fun due => early ⟨enabled, due⟩
    rw [late]
    exact ⟨_, rfl⟩
  · simp only [Bool.eq_false_iff.mpr enabled]
    exact ⟨_, rfl⟩

theorem begin_attempts (due : manager.ChecksItself world.clock) :
    Call.checkIfDue.begin manager world =
      ((.dueCheck (beginCheck manager world).1.1, (beginCheck manager world).1.2),
        (beginCheck manager world).2) := by
  have late : manager.isCheckDue world.clock = true := Throttle.isDue_iff.mpr due.2
  simp only [Call.begin, beginDueCheck, Session.bind_run, Session.get_run, Session.getWorld_run,
    due.1, late, Bool.not_true, Bool.false_eq_true, if_false]
  rfl

/-- Once it has made an attempt a manager makes no other at that time. -/
theorem not_checksItself_beginCheck (manager : Manager) (world : World) :
    ¬ (beginCheck manager world).1.2.ChecksItself (beginCheck manager world).2.clock := by
  rw [ChecksItself, (beginCheck_run manager world).2.1, (beginCheck_queried manager world).clock]
  rintro ⟨-, far⟩
  dsimp only at far
  omega

/-- Calls know of no check but those that they attempt. -/
theorem begin_lastCheck (call : Call) (manager : Manager) (world : World) :
    (call.begin manager world).1.2.policy.lastCheck =
      (((call.begin manager world).1.1.attempt? world.clock).map Attempt.clock).getD
        manager.policy.lastCheck := by
  cases call with
  | check => exact congrArg Policy.lastCheck (beginCheck_run manager world).2.1
  | checkIfDue =>
      by_cases due : manager.ChecksItself world.clock
      · rw [begin_attempts due]
        exact congrArg Policy.lastCheck (beginCheck_run manager world).2.1
      · obtain ⟨text, skipped⟩ := begin_skips due
        rw [skipped]
        rfl
  | download | cleanUp | dismiss | clearDismissal | enableAutoCheck | shutDown => rfl
  | chooseUrl wish =>
      obtain ⟨level, text, same⟩ := chooseUrl_eq wish
      rw [Call.begin, same]
      rfl
  | install artifact =>
      have same := requestInstall_same artifact manager world
      change (requestInstall artifact manager world).1.2.policy.lastCheck = _
      rw [same]
      rfl

/-- Only a check that is due is attempted by the manager itself. -/
theorem checksItself_of_begin {call : Call} {ticket : Nat}
    (begun : (call.begin manager world).1.1 = .dueCheck ticket) :
    manager.ChecksItself world.clock := by
  refine Classical.byContradiction fun early => ?_
  cases call with
  | checkIfDue =>
      obtain ⟨text, skipped⟩ := begin_skips early
      rw [skipped] at begun
      cases begun
  | check | download | cleanUp | dismiss | clearDismissal | enableAutoCheck | chooseUrl | install
  | shutDown => cases begun

/-! ## Every diary -/

/-- What every diary shows of the policy and of the attempts. -/
structure Diary.Sound (loaded : Policy) (diary : Diary) : Prop where
  recorded : diary.manager.policy.lastCheck = latest loaded diary.attempts
  distance : ∀ before attempt after, diary.attempts = before ++ attempt :: after →
    attempt.automatic = true → 86400000 ≤ attempt.clock.toInt - (latest loaded before).toInt

theorem Passes.sound {loaded : Policy} {diary next : Diary} (passes : Passes diary next)
    (sound : diary.Sound loaded) : next.Sound loaded := by
  obtain ⟨recorded, distance⟩ := sound
  cases passes with
  | meanwhile policy => exact ⟨policy ▸ recorded, distance⟩
  | call call =>
      have known := begin_lastCheck call diary.manager diary.world
      have itself (ticket : Nat)
          (begun : (call.begin diary.manager diary.world).1.1 = .dueCheck ticket) :
          diary.manager.ChecksItself diary.world.clock :=
        checksItself_of_begin begun
      rw [Diary.begin]
      generalize call.begin diary.manager diary.world = ran at known itself
      obtain ⟨⟨pending, after⟩, later⟩ := ran
      dsimp only at known itself ⊢
      cases attempted : pending.attempt? diary.world.clock with
      | none =>
          rw [attempted] at known
          refine ⟨?_, ?_⟩
          · rw [Option.toList_none, List.append_nil]
            exact known.trans recorded
          · rw [Option.toList_none, List.append_nil]
            exact distance
      | some attempt =>
          rw [attempted] at known
          refine ⟨?_, ?_⟩
          · rw [Option.toList_some, latest_concat]
            exact known
          · rw [Option.toList_some]
            intro before other rest split automatic
            rcases List.eq_nil_or_concat rest with rfl | ⟨rest, last, rfl⟩
            · obtain ⟨rfl, same⟩ := List.append_inj' split rfl
              cases same
              cases pending with
              | dueCheck ticket =>
                  cases attempted
                  rw [← recorded]
                  exact (itself ticket rfl).2
              | check => cases attempted; cases automatic
              | job | nothing => cases attempted
            · rw [List.concat_eq_append, ← List.cons_append, ← List.append_assoc] at split
              exact distance before other rest (List.append_inj' split rfl).1 automatic

theorem Passages.sound {loaded : Policy} {diary next : Diary} (passages : Passages diary next)
    (sound : diary.Sound loaded) : next.Sound loaded := by
  induction passages with
  | refl => exact sound
  | tail _ passes ih => exact passes.sound ih

theorem Diary.opening_sound (manager : Manager) (world : World) :
    (opening manager world).Sound manager.policy :=
  ⟨rfl, by simp [opening]⟩

/-- Calls that are started together pass, with all that the workers do then. -/
theorem together_passages (calls : List Call) (diary : Diary) :
    ∃ next, Passages diary next ∧
      next.manager = (together calls diary.manager diary.world).1.2 ∧
      next.world = (together calls diary.manager diary.world).2 := by
  have begins : ∃ next, Passages diary next ∧
      let begun := (calls.mapM Call.begin : Session (List Pending)) diary.manager diary.world
      next.manager = begun.1.2 ∧ next.world = begun.2 := by
    refine begins_induction (P := fun after later => ∃ next, Passages diary next ∧
      next.manager = after ∧ next.world = later) ?_ calls ⟨diary, .refl, rfl, rfl⟩
    rintro _ _ call ⟨next, onward, rfl, rfl⟩
    exact ⟨next.begin call, onward.tail (.call call), rfl, rfl⟩
  obtain ⟨begun, passages, manager, world⟩ := begins
  let settled := settle begun.manager begun.world
  refine ⟨{ begun with manager := settled.1.2, world := settled.2 },
    passages.tail (.meanwhile rfl), ?_, ?_⟩
  · simp only [settled, manager, world]
    rfl
  · simp only [settled, manager, world]
    rfl

/-! ## Calls that are started together -/

/-- The reply of a check that was not attempted. -/
abbrev skipped : Reply := .checkedIfDue (.ok none)

theorem begins_skip (count : Nat) (early : ¬ manager.ChecksItself world.clock) :
    ∃ later, (List.replicate count Call.checkIfDue).mapM Call.begin manager world =
      ((List.replicate count (.nothing skipped), manager), later) := by
  induction count generalizing world with
  | zero => exact ⟨world, rfl⟩
  | succ count ih =>
      obtain ⟨text, skips⟩ := begin_skips early
      have clock := (Effect.log_silent .debug .manager text world).clock
      have still : ¬ manager.ChecksItself (log .debug text world).2.clock := clock ▸ early
      obtain ⟨later, rest⟩ := ih still
      refine ⟨later, ?_⟩
      rw [List.replicate_succ, List.mapM_cons]
      simp only [Session.bind_run, skips, rest, Session.pure_run]
      rfl

/-- Of checks that are asked for together at most the first one is attempted. -/
theorem together_skips (count : Nat) (early : ¬ manager.ChecksItself world.clock) :
    (together (List.replicate count .checkIfDue) manager world).1.1 =
      List.replicate count skipped := by
  obtain ⟨later, begun⟩ := begins_skip count early
  simp only [together, Session.bind_run, begun, Session.get_run, Session.pure_run,
    List.map_replicate]
  rfl

theorem together_attempts (count : Nat) (due : manager.ChecksItself world.clock) :
    ∃ result : Except ManagerError CheckOutcome,
      (together (List.replicate (count + 1) .checkIfDue) manager world).1.1 =
        .checkedIfDue (result.map some) :: List.replicate count skipped := by
  obtain ⟨later, begun⟩ := begins_skip count (not_checksItself_beginCheck manager world)
  have attempted := begin_attempts due
  simp only [together, List.replicate_succ, List.mapM_cons, Session.bind_run, attempted, begun,
    Session.get_run, Session.pure_run, List.map_cons, List.map_replicate]
  exact ⟨_, rfl⟩

/-! ## The distance -/

/-- Whether a check is due: checks are made automatically, and a day has passed since the last
attempt. -/
def Diary.IsDue (loaded : Policy) (diary : Diary) : Prop :=
  diary.manager.policy.autoCheck = true ∧
    86400000 ≤ diary.world.clock.toInt - (latest loaded diary.attempts).toInt

/-- What a manager does and has done about checks that are made if they are due. -/
structure Diary.Spaced (loaded : Policy) (diary : Diary) : Prop extends diary.Sound loaded where
  /-- A check that is due is noted with the time and given to the checker. -/
  attempts : diary.IsDue loaded → ∃ manager later,
    Call.checkIfDue.begin diary.manager diary.world =
        ((.dueCheck diary.manager.checker.next, manager), later) ∧
      manager.policy = { diary.manager.policy with lastCheck := diary.world.clock } ∧
      manager.checker =
        diary.manager.checker.submit ⟨diary.manager.effectiveUrl, diary.manager.current⟩
  /-- Otherwise there is nothing but a record: the manager with its policy and store is the same, and
  nothing was asked. -/
  skips : ¬ diary.IsDue loaded → ∃ text later,
    Call.checkIfDue.begin diary.manager diary.world = ((.nothing skipped, diary.manager), later) ∧
      later = (log .debug text diary.world).2 ∧ later.requests = diary.world.requests ∧
      (diary.world.Quiet → later.disk = diary.world.disk)
  /-- Of checks that are asked for together the first one is attempted if it is due. -/
  first : diary.IsDue loaded → ∀ others, ∃ result : Except ManagerError CheckOutcome,
    (together (List.replicate (others + 1) .checkIfDue) diary.manager diary.world).1.1 =
      .checkedIfDue (result.map some) :: List.replicate others skipped
  none : ¬ diary.IsDue loaded → ∀ count,
    (together (List.replicate count .checkIfDue) diary.manager diary.world).1.1 =
      List.replicate count skipped

theorem Diary.Sound.isDue_iff {loaded : Policy} {diary : Diary} (sound : diary.Sound loaded) :
    diary.IsDue loaded ↔ diary.manager.ChecksItself diary.world.clock := by
  rw [IsDue, ChecksItself, sound.recorded]

theorem Diary.Sound.spaced {loaded : Policy} {diary : Diary} (sound : diary.Sound loaded) :
    diary.Spaced loaded where
  toSound := sound
  attempts due := by
    rw [begin_attempts (sound.isDue_iff.mp due)]
    obtain ⟨number, policy, checker⟩ := beginCheck_run diary.manager diary.world
    exact ⟨_, _, by rw [number], policy, checker⟩
  skips early := by
    obtain ⟨text, skips⟩ := begin_skips (mt sound.isDue_iff.mpr early)
    refine ⟨text, _, skips, rfl, (Effect.log_silent _ _ _).requests _, fun quiet => ?_⟩
    rw [log, Effect.log_run quiet, World.disk_recorded]
  first due others := together_attempts others (sound.isDue_iff.mp due)
  none early count := together_skips count (mt sound.isDue_iff.mpr early)

section

variable {runtime : Bool} {current : UInt32} {settings : Settings} {directory : Path}
  {store : PolicyStore} {later : World} {diary : Diary}

/-- Whatever happens to a manager and its clock, the checks that it makes by itself keep a day's
distance from the attempt before them, and it makes each one that is due. -/
theorem checks_spaced
    (started : start runtime current settings directory store world = (.ok manager, later))
    (passages : Passages (.opening manager later) diary) :
    (∃ ready, (store.load ready).1 = .ok manager.policy) ∧ diary.Spaced manager.policy :=
  ⟨start_loaded started, (passages.sound (Diary.opening_sound manager later)).spaced⟩

end

/-- A diary at another time. -/
def Diary.atTime (diary : Diary) (clock : Int64) : Diary :=
  { diary with world := { diary.world with clock := clock } }

/-- The diary of a manager that made a check by itself at the end of time, was then shut down and, the
clock having been put back to the beginning, was asked for a check. -/
def farDiary : Diary :=
  ((((Diary.opening usual (Transfer.worldOf privateDisk Transfer.oneChunk)).atTime
    Int64.maxValue).begin .checkIfDue).begin .shutDown).atTime Int64.minValue |>.begin .check

theorem checks_spaced_far :
    start true 1 .default "updates" (.memory .default)
        (Transfer.worldOf privateDisk Transfer.oneChunk) =
          (.ok usual, Transfer.worldOf privateDisk Transfer.oneChunk) ∧
      Passages (.opening usual (Transfer.worldOf privateDisk Transfer.oneChunk)) farDiary ∧
      farDiary.attempts = [⟨true, Int64.maxValue⟩, ⟨false, Int64.minValue⟩] ∧
      (∃ ready, ((PolicyStore.memory .default).load ready).1 = .ok usual.policy) ∧
      farDiary.Spaced usual.policy := by
  have moved (diary : Diary) (clock : Int64) : Passes diary (diary.atTime clock) := .meanwhile rfl
  have passages : Passages (.opening usual (Transfer.worldOf privateDisk Transfer.oneChunk))
      farDiary :=
    ((((Relation.ReflTransGen.single (moved _ _)).tail (.call .checkIfDue)).tail
      (.call .shutDown)).tail (moved _ _)).tail (.call .check)
  exact ⟨start_usual _, passages, by decide +kernel, checks_spaced (start_usual _) passages⟩

end Manager

end SelfUpdate
