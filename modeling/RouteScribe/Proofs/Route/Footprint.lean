import RouteScribe.Proofs.Route.Walk

/-!
# What a walk changes

A walk leaves the scopes further out as they are.  In its own scope it keeps the
meaning of every name that is neither bound nor disturbed, and a name that is
disturbed without being bound keeps none of the objects that were there before.
-/

namespace RouteScribe.Route

open RouteScribe.Source

variable {σ : Type}

namespace Surroundings

/-- How the surroundings may change on a walk, given the names that the walk binds in
its own scope and those that it disturbs. -/
structure Within (binds disturbs : List String) (before after : Surroundings σ) : Prop where
  outer : after.outer = before.outer
  isClass : after.inner.isClass = before.inner.isClass
  fresh : before.fresh ≤ after.fresh
  kept : ∀ name, name ∉ binds → name ∉ disturbs →
    after.inner.names.get? name = before.inner.names.get? name
  /-- A name that is only disturbed can have an object made on the walk, but none from
  before. -/
  lost : ∀ name, name ∉ binds → name ∈ disturbs → ∃ found,
    after.inner.names.get? name = some found ∧ ∀ binding ∈ found, before.fresh ≤ binding.id

namespace Within

/-- Surroundings with the same scopes. -/
theorem of_inner_eq {before after : Surroundings σ} (hinner : after.inner = before.inner)
    (houter : after.outer = before.outer) (hfresh : before.fresh ≤ after.fresh) :
    Within [] [] before after where
  outer := houter
  isClass := by rw [hinner]
  fresh := hfresh
  kept _ _ _ := by rw [hinner]
  lost _ _ hname := absurd hname List.not_mem_nil

theorem refl (state : Surroundings σ) : Within [] [] state state :=
  .of_inner_eq rfl rfl le_rfl

/-- Footprints of steps that follow one another add up. -/
theorem trans {binds moreBinds disturbs moreDisturbs : List String}
    {first second third : Surroundings σ} (hfirst : Within binds disturbs first second)
    (hsecond : Within moreBinds moreDisturbs second third) :
    Within (binds ++ moreBinds) (disturbs ++ moreDisturbs) first third where
  outer := hsecond.outer.trans hfirst.outer
  isClass := hsecond.isClass.trans hfirst.isClass
  fresh := hfirst.fresh.trans hsecond.fresh
  kept name hbinds hdisturbs := by
    simp only [List.mem_append, not_or] at hbinds hdisturbs
    exact (hsecond.kept name hbinds.2 hdisturbs.2).trans (hfirst.kept name hbinds.1 hdisturbs.1)
  lost name hbinds hdisturbs := by
    simp only [List.mem_append, not_or] at hbinds
    by_cases hmore : name ∈ moreDisturbs
    · obtain ⟨found, hfound, hmade⟩ := hsecond.lost name hbinds.2 hmore
      exact ⟨found, hfound, fun binding hbinding =>
        hfirst.fresh.trans (hmade binding hbinding)⟩
    · have hname := (List.mem_append.mp hdisturbs).resolve_right hmore
      obtain ⟨found, hfound, hmade⟩ := hfirst.lost name hbinds.1 hname
      exact ⟨found, (hsecond.kept name hbinds.2 hmore).trans hfound, hmade⟩

theorem weaken {binds moreBinds disturbs : List String} {before after : Surroundings σ}
    (hsubset : binds ⊆ moreBinds) (hwithin : Within binds disturbs before after) :
    Within moreBinds disturbs before after where
  outer := hwithin.outer
  isClass := hwithin.isClass
  fresh := hwithin.fresh
  kept name hbinds := hwithin.kept name fun hname => hbinds (hsubset hname)
  lost name hbinds := hwithin.lost name fun hname => hbinds (hsubset hname)

theorem bind (state : Surroundings σ) (name : String) (binding : Option Binding) :
    Within [name] [] state (state.bind name binding) where
  outer := rfl
  isClass := rfl
  fresh := le_rfl
  kept other hother _ :=
    Table.get?_put_of_ne (by simpa using hother) binding state.inner.names
  lost _ _ hname := absurd hname List.not_mem_nil

/-- A name that gets nothing, or an object that is new. -/
theorem disturb {before after : Surroundings σ} (hwithin : Within [] [] before after)
    (name : String) {binding : Option Binding}
    (hbinding : ∀ made ∈ binding, before.fresh ≤ made.id) :
    Within [] [name] before (after.bind name binding) where
  outer := hwithin.outer
  isClass := hwithin.isClass
  fresh := hwithin.fresh
  kept other _ hother := by
    have hne : other ≠ name := by simpa using hother
    calc (after.inner.names.put name binding).get? other
        = after.inner.names.get? other := Table.get?_put_of_ne hne binding _
      _ = before.inner.names.get? other :=
          hwithin.kept other List.not_mem_nil List.not_mem_nil
  lost other _ hother := by
    obtain rfl := List.mem_singleton.mp hother
    exact ⟨binding, Table.get?_put_self _ _ _, hbinding⟩

theorem unbind (state : Surroundings σ) (names : List String) :
    Within [] names state (state.unbind names) := by
  induction names generalizing state with
  | nil => exact .refl state
  | cons name names ih => exact ((Within.refl state).disturb name (by simp)).trans (ih _)

theorem assigned (types : List String) (state : Surroundings σ) (name : String)
    (value hint : Option Expr) (declaration : Option NodeStart) :
    Within [] [] state (state.assigned types name value hint declaration).2 := by
  unfold Surroundings.assigned
  split
  · exact .refl state
  · split
    · exact .of_inner_eq rfl rfl (Nat.le_succ _)
    · exact .refl state

/-- Declaring parameters leaves the surroundings as they are. -/
theorem paramScope (types : List String) (declaration : NodeStart) (params : List Param)
    (scope : Scope) (state : Surroundings σ) :
    Within [] [] state (Route.paramScope types declaration params scope state).2 := by
  induction params generalizing scope state with
  | nil => exact .refl state
  | cons param params ih =>
      unfold Route.paramScope
      split
      · have hcreate : Within [] [] state (state.create param.name (some declaration)).2 :=
          .of_inner_eq rfl rfl (Nat.le_succ _)
        exact hcreate.trans (ih _ _)
      · exact ih _ _

theorem sight (observer : Observer σ) (state : Surroundings σ) (start : NodeStart)
    (func : Expr) (args : List Expr) :
    Within [] [] state (state.sight observer start func args) := by
  unfold Surroundings.sight
  split
  · split
    · split
      · exact .of_inner_eq rfl rfl le_rfl
      · exact .refl state
    · exact .refl state
  · exact .refl state

/-- What happens in an inner scope is forgotten when it is left. -/
theorem leave {binds disturbs : List String} {state after : Surroundings σ} {scope : Scope}
    (hbody : Within binds disturbs (state.enter scope) after) :
    Within [] [] state after.leave := by
  have houter : after.outer = state.inner :: state.outer := hbody.outer
  have hfresh : state.fresh ≤ after.fresh := hbody.fresh
  unfold Surroundings.leave
  rw [houter]
  exact .of_inner_eq rfl rfl hfresh

end Within

end Surroundings

open Surroundings

/-- Every walk stays within what it binds and disturbs. -/
theorem within_closed (observer : Observer σ) :
    WalkRelation.Closed
      (fun binds disturbs before (_ : Surroundings σ) after _ =>
        Within binds disturbs before after) observer observer where
  refl before _ := .refl before
  trans hfirst hsecond := hfirst.trans hsecond
  weaken hsubset hwithin := hwithin.weaken hsubset
  sight start func args before _ := .sight observer before start func args
  bind name binding before _ := .bind before name binding
  disturb name before _ := (Within.refl before).disturb name (by simp)
  declare name hint start before _ := by
    -- Without a value there is no object to share, so the object is new or there is none.
    have hnew : ∀ made ∈ (before.assigned observer.types name none hint start).1,
        before.fresh ≤ made.id := by
      unfold Surroundings.assigned Surroundings.shared
      dsimp only
      split
      · simp [Surroundings.create]
      · simp
    exact (Within.assigned observer.types before name none hint start).disturb name hnew
  assign name value hint start before _ next _ hnext :=
    (Within.assigned observer.types before name value hint start).trans (hnext _ _ before)
  params start params scope before _ next _ hnext :=
    (Within.paramScope observer.types start params scope before).trans (hnext _ _ before)
  scope _ _ _ _ _ hbody := hbody.leave

end RouteScribe.Route
