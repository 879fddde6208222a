import Mathlib.Tactic
import RouteScribe.Proofs.Project.Round
import RouteScribe.Shell.Run

/-!
# Runs of a watcher

A run is a list of polls.  Between two polls lies a nap, and each poll sees what the nap
has made of the tree that the poll before has left.  A poll starts a pass if it is the
first, or if the stamps are not those of the poll before; how earlier passes have ended
does not matter.
-/

namespace RouteScribe.Project

open RouteScribe.Config

structure Poll where
  disk : Disk
  round : Round

def Poll.nap (poll : Poll) : Nap :=
  ⟨poll.round.disk, poll.round.log⟩

namespace Watcher

variable (watcher : Watcher)

def passesAfter (passes : Nat) (round : Round) : Nat :=
  if round.started then passes + 1 else passes

def pollsFrom : (changes : List (Disk → Except FileError Disk)) → (last : Option Snapshot) →
    (passes : Nat) → Disk → List Poll
  | changes, last, passes, disk =>
      if watcher.isSpent passes then []
      else
        let round := watcher.round last disk
        let passes := passesAfter passes round
        match round.error with
        | some _ => [⟨disk, round⟩]
        | none =>
            if watcher.isSpent passes then [⟨disk, round⟩]
            else
              match changes with
              | [] => [⟨disk, round⟩]
              | change :: changes =>
                  match change round.disk with
                  | .error _ => [⟨disk, round⟩]
                  | .ok next => ⟨disk, round⟩ :: pollsFrom changes (some round.stamps) passes next

def polls (changes : List (Disk → Except FileError Disk)) (disk : Disk) : List Poll :=
  watcher.pollsFrom changes none 0 disk

/-- The ways in which a run ends with a round; `passes` counts that of the round, too. -/
inductive Ends (round : Round) (passes : Nat) :
    List (Disk → Except FileError Disk) → WatchRun → Prop where
  /-- The round fails. -/
  | failed {changes error} (herror : round.error = some error) :
      Ends round passes changes
        { log := round.log, disk := round.disk, ending := .failed error }
  /-- The last pass has been run. -/
  | finished {changes} (hok : round.error = none) (hspent : watcher.isSpent passes = true) :
      Ends round passes changes
        { log := round.log, disk := round.disk, ending := .finished passes }
  /-- The nap is interrupted. -/
  | interrupted (hok : round.error = none) (hleft : watcher.isSpent passes = false) :
      Ends round passes []
        { naps := [⟨round.disk, round.log⟩], disk := round.disk, ending := .interrupted }
  /-- The nap fails. -/
  | disturbed {change changes error} (hok : round.error = none)
      (hleft : watcher.isSpent passes = false) (hchange : change round.disk = .error error) :
      Ends round passes (change :: changes)
        { naps := [⟨round.disk, round.log⟩], disk := round.disk, ending := .failed (.nap error) }

/-- The ways of a run with its polls. -/
inductive Runs : List (Disk → Except FileError Disk) → Option Snapshot → Nat → Disk →
    List Poll → WatchRun → Prop where
  /-- There is no pass left to run. -/
  | spent {changes last passes disk} (hspent : watcher.isSpent passes = true) :
      Runs changes last passes disk [] { disk, ending := .finished passes }
  /-- The run ends with a round. -/
  | ended {changes last passes disk round run} (hround : watcher.round last disk = round)
      (hopen : watcher.isSpent passes = false)
      (hends : watcher.Ends round (passesAfter passes round) changes run) :
      Runs changes last passes disk [⟨disk, round⟩] run
  /-- After a nap the watcher goes on. -/
  | continued {change changes last passes disk round next polls run}
      (hround : watcher.round last disk = round) (hopen : watcher.isSpent passes = false)
      (hok : round.error = none) (hleft : watcher.isSpent (passesAfter passes round) = false)
      (hchange : change round.disk = .ok next)
      (hlater : Runs changes (some round.stamps) (passesAfter passes round) next polls run) :
      Runs (change :: changes) last passes disk (⟨disk, round⟩ :: polls)
        { run with naps := ⟨round.disk, round.log⟩ :: run.naps }

namespace Runs

variable {watcher} {changes : List (Disk → Except FileError Disk)} {last : Option Snapshot}
variable {passes : Nat} {disk : Disk} {polls : List Poll} {run : WatchRun}

/-! ## From poll to poll -/

/-- The first poll sees the tree that the run starts with. -/
theorem first (hruns : watcher.Runs changes last passes disk polls run) {poll : Poll}
    (hpoll : polls[0]? = some poll) :
    poll.disk = disk ∧ poll.round = watcher.round last disk := by
  cases hruns with
  | spent => cases hpoll
  | ended hround =>
      cases hpoll
      exact ⟨rfl, hround.symm⟩
  | continued hround =>
      cases hpoll
      exact ⟨rfl, hround.symm⟩

/-- A later poll sees what the nap has made of the tree, and remembers the stamps of the
round before. -/
theorem next (hruns : watcher.Runs changes last passes disk polls run) {i : Nat}
    {before poll : Poll} (hbefore : polls[i]? = some before) (hpoll : polls[i + 1]? = some poll) :
    poll.round = watcher.round (some before.round.stamps) poll.disk ∧
      ∃ change, changes[i]? = some change ∧ change before.round.disk = .ok poll.disk := by
  induction hruns generalizing i with
  | spent => cases hpoll
  | ended => cases hpoll
  | @continued change _ _ _ _ _ _ _ _ _ _ _ _ hchange hlater ih =>
      rw [List.getElem?_cons_succ] at hpoll
      cases i with
      | zero =>
          cases hbefore
          obtain ⟨hdisk, hround⟩ := hlater.first hpoll
          rw [hdisk]
          exact ⟨hround, change, rfl, hchange⟩
      | succ i =>
          rw [List.getElem?_cons_succ] at hbefore
          exact ih hbefore hpoll

end Runs

/-! ## Passes -/

namespace Runs

variable {watcher} {changes : List (Disk → Except FileError Disk)} {last : Option Snapshot}
variable {passes : Nat} {disk : Disk} {polls : List Poll} {run : WatchRun}

end Runs

end Watcher

end RouteScribe.Project
