import Mathlib.Logic.Relation
import RouteScribe.Blueprint.Path
import RouteScribe.Proofs.Text.Lines

/-!
# Segments of a joined path

Segments are resolved one step at a time: empty segments and single dots go, two dots take the
name before them along, and at the root two dots go alone.  Every step leaves fewer segments
and the same normal form, so in whatever order the steps are taken they end in the same
segments, which are those of the joined path.
-/

namespace RouteScribe.Blueprint

open RouteScribe.Text Relation

/-! ### Steps -/

/-- A segment that names a place: it is not empty and does not consist of one or two dots. -/
def IsName (segment : List Char) : Prop :=
  segment ≠ [] ∧ segment ≠ ['.'] ∧ segment ≠ ['.', '.']

/-- One step of resolving the segments of a path. -/
inductive Resolves (rooted : Bool) : (segments next : List (List Char)) → Prop where
  | empty (front back : List (List Char)) : Resolves rooted (front ++ [] :: back) (front ++ back)
  | dot (front back : List (List Char)) :
      Resolves rooted (front ++ ['.'] :: back) (front ++ back)
  /-- Two dots take back the name before them. -/
  | up (front back : List (List Char)) {name : List Char} (hname : IsName name) :
      Resolves rooted (front ++ name :: ['.', '.'] :: back) (front ++ back)
  /-- There is nothing above the root. -/
  | top (back : List (List Char)) (hrooted : rooted) : Resolves rooted (['.', '.'] :: back) back

/-- The segments that are left when there is nothing more to resolve. -/
def IsResolved (rooted : Bool) (segments resolved : List (List Char)) : Prop :=
  ReflTransGen (Resolves rooted) segments resolved ∧ ∀ next, ¬ Resolves rooted resolved next

variable {rooted : Bool} {segments next resolved kept : List (List Char)}

theorem Resolves.length_lt (hstep : Resolves rooted segments next) :
    next.length < segments.length := by
  cases hstep with
  | empty front back => simp
  | dot front back => simp
  | up front back hname =>
      simp only [List.length_append, List.length_cons]
      omega
  | top back hrooted => simp

theorem Resolves.subset (hstep : Resolves rooted segments next) : next ⊆ segments := by
  cases hstep with
  | empty front back => simp
  | dot front back => simp
  | up front back hname => grind
  | top back hrooted => simp

/-! ### The normal form -/

/-- The normal form of segments: each of them is pushed onto the normal form of those before. -/
def resolveSegments (rooted : Bool) (segments : List (List Char)) : List (List Char) :=
  (segments.foldl (pushSegment rooted) []).reverse

theorem normalSegments_eq (path : List Char) :
    normalSegments rooted path = resolveSegments rooted (splitOnChar '/' path) := rfl

theorem pushSegment_name {name : List Char} (hname : IsName name) :
    pushSegment rooted kept name = name :: kept := by
  obtain ⟨hempty, hdot, hup⟩ := hname
  simp [pushSegment, hempty, hdot, hup]

theorem pushSegment_up {name : List Char} (hname : IsName name) :
    pushSegment rooted (name :: kept) ['.', '.'] = kept := by
  simp [pushSegment, hname.2.2]

/-- A step does not change the normal form. -/
theorem Resolves.resolveSegments_eq (hstep : Resolves rooted segments next) :
    resolveSegments rooted segments = resolveSegments rooted next := by
  unfold resolveSegments
  cases hstep with
  | empty front back => simp [pushSegment]
  | dot front back => simp [pushSegment]
  | up front back hname => simp [pushSegment_name hname, pushSegment_up hname]
  | top back hrooted => simp [pushSegment, hrooted]

/-- The ways to push a segment. -/
inductive Pushes (rooted : Bool) (kept : List (List Char)) :
    (segment : List Char) → (after : List (List Char)) → Prop where
  | skip {segment : List Char} (hsegment : segment = [] ∨ segment = ['.']) :
      Pushes rooted kept segment kept
  | name {segment : List Char} (hname : IsName segment) :
      Pushes rooted kept segment (segment :: kept)
  | up {last : List Char} {before : List (List Char)} (hkept : kept = last :: before)
      (hlast : last ≠ ['.', '.']) : Pushes rooted kept ['.', '.'] before
  | top (hrooted : rooted) (hkept : kept = []) : Pushes rooted kept ['.', '.'] []
  /-- Two dots stay where there is no name before them. -/
  | stay : Pushes rooted kept ['.', '.'] (['.', '.'] :: kept)

/-- What is done with a segment is one of the ways of pushing it. -/
theorem pushes_pushSegment (segment : List Char) :
    Pushes rooted kept segment (pushSegment rooted kept segment) := by
  unfold pushSegment
  split
  · exact .skip ‹_›
  · rename_i hskip
    split
    · rename_i hup
      subst hup
      split
      · split
        · exact .top ‹_› rfl
        · exact .stay
      · rename_i last before
        split
        · exact .stay
        · exact .up rfl ‹_›
    · rename_i hup
      rw [not_or] at hskip
      exact .name ⟨hskip.1, hskip.2, hup⟩

/-- What is kept has neither empty segments nor single dots. -/
def Settled (kept : List (List Char)) : Prop :=
  ∀ segment ∈ kept, segment ≠ [] ∧ segment ≠ ['.']

/-- Pushing a segment adds neither an empty one nor a single dot. -/
theorem Settled.pushSegment (hkept : Settled kept) (segment : List Char) :
    Settled (pushSegment rooted kept segment) := by
  have hpushes : Pushes rooted kept segment _ := pushes_pushSegment segment
  generalize Blueprint.pushSegment rooted kept segment = after at hpushes
  cases hpushes with
  | skip hsegment => exact hkept
  | name hname => exact List.forall_mem_cons.mpr ⟨⟨hname.1, hname.2.1⟩, hkept⟩
  | up heq hlast =>
      subst heq
      exact (List.forall_mem_cons.mp hkept).2
  | top hrooted hempty => exact List.forall_mem_nil _
  | stay => exact List.forall_mem_cons.mpr ⟨by decide, hkept⟩

/-- Pushing a segment takes at most one step. -/
theorem Settled.resolves_pushSegment (hkept : Settled kept) (segment : List Char)
    (back : List (List Char)) :
    ReflTransGen (Resolves rooted) (kept.reverse ++ segment :: back)
      ((Blueprint.pushSegment rooted kept segment).reverse ++ back) := by
  have hpushes : Pushes rooted kept segment _ := pushes_pushSegment segment
  generalize Blueprint.pushSegment rooted kept segment = after at hpushes
  cases hpushes with
  | skip hsegment =>
      rcases hsegment with rfl | rfl
      · exact .single (.empty kept.reverse back)
      · exact .single (.dot kept.reverse back)
  | name hname =>
      rw [List.reverse_cons, List.append_assoc]
      exact .refl
  | up heq hlast =>
      subst heq
      obtain ⟨⟨hempty, hdot⟩, -⟩ := List.forall_mem_cons.mp hkept
      rw [List.reverse_cons, List.append_assoc]
      exact .single (.up after.reverse back ⟨hempty, hdot, hlast⟩)
  | top hrooted hempty =>
      subst hempty
      exact .single (.top back hrooted)
  | stay =>
      rw [List.reverse_cons, List.append_assoc]
      exact .refl

/-- Segments that are pushed one after the other are resolved step by step. -/
theorem Settled.resolves_foldl (hkept : Settled kept) (segments : List (List Char)) :
    ReflTransGen (Resolves rooted) (kept.reverse ++ segments)
      (segments.foldl (Blueprint.pushSegment rooted) kept).reverse := by
  induction segments generalizing kept with
  | nil =>
      rw [List.append_nil]
      exact .refl
  | cons segment segments ih =>
      exact (hkept.resolves_pushSegment segment segments).trans (ih (hkept.pushSegment segment))

theorem resolves_resolveSegments (segments : List (List Char)) :
    ReflTransGen (Resolves rooted) segments (resolveSegments rooted segments) :=
  Settled.resolves_foldl (List.forall_mem_nil _) segments

theorem resolveSegments_eq_of_resolves (hsteps : ReflTransGen (Resolves rooted) segments next) :
    resolveSegments rooted segments = resolveSegments rooted next := by
  induction hsteps with
  | refl => rfl
  | tail _ hstep ih => exact ih.trans hstep.resolveSegments_eq

theorem length_le_of_resolves (hsteps : ReflTransGen (Resolves rooted) segments next) :
    next.length ≤ segments.length := by
  induction hsteps with
  | refl => exact Nat.le_refl _
  | tail _ hstep ih => exact Nat.le_trans (Nat.le_of_lt hstep.length_lt) ih

theorem subset_of_resolves (hsteps : ReflTransGen (Resolves rooted) segments next) :
    next ⊆ segments := by
  induction hsteps with
  | refl => exact List.Subset.refl _
  | tail _ hstep ih => exact List.Subset.trans hstep.subset ih

/-- The steps end in the normal form, whatever their order. -/
theorem isResolved_iff :
    IsResolved rooted segments resolved ↔ resolved = resolveSegments rooted segments := by
  constructor
  · rintro ⟨hsteps, hfinal⟩
    rw [resolveSegments_eq_of_resolves hsteps]
    rcases (resolves_resolveSegments resolved).cases_head with heq | ⟨next, hstep, -⟩
    · exact heq
    · exact absurd hstep (hfinal next)
  · rintro rfl
    refine ⟨resolves_resolveSegments segments, fun next hstep => ?_⟩
    -- A further step would have the same normal form, but fewer segments than it.
    have hnormal : resolveSegments rooted next = resolveSegments rooted segments := by
      rw [← hstep.resolveSegments_eq,
        ← resolveSegments_eq_of_resolves (resolves_resolveSegments segments)]
    have hlength : (resolveSegments rooted next).length ≤ next.length :=
      length_le_of_resolves (resolves_resolveSegments next)
    rw [hnormal] at hlength
    exact absurd hstep.length_lt (Nat.not_lt.mpr hlength)

/-! ### What is left -/

theorem final_tail {segment : List Char}
    (hfinal : ∀ next, ¬ Resolves rooted (segment :: segments) next) (next : List (List Char)) :
    ¬ Resolves false segments next := by
  intro hstep
  cases hstep with
  | empty front back => exact hfinal _ (.empty (segment :: front) back)
  | dot front back => exact hfinal _ (.dot (segment :: front) back)
  | up front back hname => exact hfinal _ (.up (segment :: front) back hname)
  | top back hrooted => cases hrooted

/-- Two dots are left only in front of the names, and not at the root. -/
theorem exists_ups_names (hfinal : ∀ next, ¬ Resolves rooted segments next) :
    ∃ ups names, segments = List.replicate ups ['.', '.'] ++ names ∧
      (∀ name ∈ names, IsName name) ∧ (rooted → ups = 0) := by
  induction segments generalizing rooted with
  | nil => exact ⟨0, [], rfl, List.forall_mem_nil _, fun _ => rfl⟩
  | cons segment segments ih =>
      obtain ⟨ups, names, rfl, hnames, -⟩ := ih (final_tail hfinal)
      by_cases hup : segment = ['.', '.']
      · subst hup
        refine ⟨ups + 1, names, rfl, hnames, fun hrooted => ?_⟩
        exact absurd (.top _ hrooted) (hfinal _)
      · have hname : IsName segment := by
          refine ⟨?_, ?_, hup⟩
          · rintro rfl
            exact hfinal _ (.empty [] _)
          · rintro rfl
            exact hfinal _ (.dot [] _)
        cases ups with
        | zero =>
            exact ⟨0, segment :: names, rfl, List.forall_mem_cons.mpr ⟨hname, hnames⟩,
              fun _ => rfl⟩
        | succ ups => exact absurd (.up [] _ hname) (hfinal _)

theorem resolveSegments_eq_ups_names (rooted : Bool) (segments : List (List Char)) :
    ∃ ups names, resolveSegments rooted segments = List.replicate ups ['.', '.'] ++ names ∧
      (∀ name ∈ names, IsName name) ∧ (rooted → ups = 0) :=
  exists_ups_names (isResolved_iff.mpr rfl).2

end RouteScribe.Blueprint
