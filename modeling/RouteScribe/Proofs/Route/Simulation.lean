import RouteScribe.Proofs.Route.Walk

/-!
# Walks under different observers

Two walks through the same program with the same types of routing objects bind the
same names to the same objects and meet the same calls, whatever their observers do
with those calls.  The relation `Agree` states this for one point of the two walks,
and every step of a walk keeps it.
-/

namespace RouteScribe.Route

open RouteScribe.Source

variable {σ τ : Type}

/-- Two observers with the same types of routing objects whose results stay related
by `related` when both are handed the same call. -/
structure Observer.Simulates (related : σ → τ → Prop) (left : Observer σ) (right : Observer τ) :
    Prop where
  types : left.types = right.types
  observe : ∀ (sighting : Sighting) {seen : σ} {other : τ}, related seen other →
    related (left.observe sighting seen) (right.observe sighting other)

namespace Surroundings

/-- Two walks at the same point: scopes and objects are the same, and what has become
of the calls is related. -/
structure Agree (related : σ → τ → Prop) (left : Surroundings σ) (right : Surroundings τ) :
    Prop where
  inner : left.inner = right.inner
  outer : left.outer = right.outer
  fresh : left.fresh = right.fresh
  seen : related left.seen right.seen

namespace Agree

variable {related : σ → τ → Prop} {left : Surroundings σ} {right : Surroundings τ}

theorem lookup_eq (hagree : Agree related left right) (name : String) :
    left.lookup name = right.lookup name := by
  simp only [lookup, hagree.inner, hagree.outer]

theorem shared_eq (hagree : Agree related left right) (value : Option Expr) :
    left.shared value = right.shared value := by
  unfold shared
  split
  · exact hagree.lookup_eq _
  · rfl

theorem bind (hagree : Agree related left right) (name : String) (binding : Option Binding) :
    Agree related (left.bind name binding) (right.bind name binding) := by
  refine ⟨?_, hagree.outer, hagree.fresh, hagree.seen⟩
  simp only [Surroundings.bind, hagree.inner]

theorem enter (hagree : Agree related left right) (scope : Scope) :
    Agree related (left.enter scope) (right.enter scope) := by
  refine ⟨rfl, ?_, hagree.fresh, hagree.seen⟩
  simp only [Surroundings.enter, hagree.inner, hagree.outer]

theorem leave (hagree : Agree related left right) : Agree related left.leave right.leave := by
  have houter := hagree.outer
  unfold Surroundings.leave
  rw [← houter]
  cases left.outer with
  | nil => exact hagree
  | cons scope scopes => exact ⟨rfl, rfl, hagree.fresh, hagree.seen⟩

theorem create (hagree : Agree related left right) (name : String)
    (declaration : Option NodeStart) :
    (left.create name declaration).1 = (right.create name declaration).1 ∧
      Agree related (left.create name declaration).2 (right.create name declaration).2 := by
  refine ⟨?_, hagree.inner, hagree.outer, ?_, hagree.seen⟩
  · simp only [Surroundings.create, hagree.fresh]
  · simp only [Surroundings.create, hagree.fresh]

/-- An assignment binds the same object in both walks. -/
theorem assigned (hagree : Agree related left right) (types : List String) (name : String)
    (value hint : Option Expr) (declaration : Option NodeStart) :
    (left.assigned types name value hint declaration).1 =
        (right.assigned types name value hint declaration).1 ∧
      Agree related (left.assigned types name value hint declaration).2
        (right.assigned types name value hint declaration).2 := by
  have hcreate := hagree.create name declaration
  unfold Surroundings.assigned
  rw [hagree.shared_eq]
  split
  · exact ⟨rfl, hagree⟩
  · split
    · exact ⟨congrArg some hcreate.1, hcreate.2⟩
    · exact ⟨rfl, hagree⟩

/-- The parameters of a function give the same scope in both walks. -/
theorem paramScope (hagree : Agree related left right) (types : List String)
    (declaration : NodeStart) (params : List Param) (scope : Scope) :
    (Route.paramScope types declaration params scope left).1 =
        (Route.paramScope types declaration params scope right).1 ∧
      Agree related (Route.paramScope types declaration params scope left).2
        (Route.paramScope types declaration params scope right).2 := by
  induction params generalizing scope left right with
  | nil => exact ⟨rfl, hagree⟩
  | cons param params ih =>
      have hcreate := hagree.create param.name (some declaration)
      unfold Route.paramScope
      split
      · simp only [hcreate.1]
        exact ih hcreate.2 _
      · exact ih hagree _

/-- A call is noted in both walks or in neither. -/
theorem sight {observer : Observer σ} {other : Observer τ}
    (hsimulates : observer.Simulates related other) (hagree : Agree related left right)
    (start : NodeStart) (func : Expr) (args : List Expr) :
    Agree related (left.sight observer start func args)
      (right.sight other start func args) := by
  unfold Surroundings.sight
  split
  · rw [hagree.lookup_eq]
    split
    · split
      · exact ⟨hagree.inner, hagree.outer, hagree.fresh, hsimulates.observe _ hagree.seen⟩
      · exact hagree
    · exact hagree
  · exact hagree

end Agree

end Surroundings

/-- Walks that start in agreement end in agreement. -/
def agreement (related : σ → τ → Prop) : WalkRelation σ τ :=
  fun _ _ left right left₁ right₁ =>
    Surroundings.Agree related left right → Surroundings.Agree related left₁ right₁

/-- Observers that agree at each sighting agree over a whole walk. -/
theorem agreement_closed {related : σ → τ → Prop} {observer : Observer σ} {other : Observer τ}
    (hsimulates : observer.Simulates related other) :
    (agreement related).Closed observer other where
  refl _ _ hagree := hagree
  trans hfirst hsecond hagree := hsecond (hfirst hagree)
  weaken _ hwalk := hwalk
  sight start func args _ _ hagree := hagree.sight hsimulates start func args
  bind name binding _ _ hagree := hagree.bind name binding
  disturb name _ _ hagree := hagree.bind name none
  declare name hint start left right hagree := by
    have hassigned := hagree.assigned observer.types name none hint start
    rw [← hsimulates.types, hassigned.1]
    exact hassigned.2.bind name _
  assign name value hint start left right next next' hnext hagree := by
    have hassigned := hagree.assigned observer.types name value hint start
    rw [← hsimulates.types, hassigned.1]
    exact hnext _ _ _ hassigned.2
  params start params scope left right next next' hnext hagree := by
    have hparams := hagree.paramScope observer.types start params scope
    rw [← hsimulates.types, hparams.1]
    exact hnext _ _ _ hparams.2
  scope scope _ _ _ _ hbody hagree := (hbody (hagree.enter scope)).leave

/-- What becomes of the calls of a program under two observers stays related. -/
theorem walkStmts_seen {related : σ → τ → Prop} {observer : Observer σ} {other : Observer τ}
    (hsimulates : observer.Simulates related other) (module : Module) (seen : σ) (seen' : τ)
    (hseen : related seen seen') :
    related (walkStmts observer module (.initial seen)).seen
      (walkStmts other module (.initial seen')).seen := by
  have hinitial : Surroundings.Agree related (.initial seen) (.initial seen') :=
    ⟨rfl, rfl, rfl, hseen⟩
  exact ((agreement_closed hsimulates).walkStmts module _ _ hinitial).seen

end RouteScribe.Route
