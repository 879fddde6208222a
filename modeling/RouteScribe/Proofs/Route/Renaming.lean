import RouteScribe.Proofs.Route.Respelling

/-!
# Scans under a renaming

The registrations of a renamed program stand on renamed objects.  Renamed objects are
told apart as before, so their blocks come in the same groups, and the documentation of
a registration does not see its object at all.  What is left of a name is the one that
an object was made under, which only the text of one error shows.
-/

namespace RouteScribe.Route

open RouteScribe.Source

theorem Binding.rename_injective {rename : String → String}
    (hinjective : Function.Injective rename) : Function.Injective (Binding.rename rename) := by
  rintro ⟨id, name, declaration⟩ ⟨otherId, otherName, otherDeclaration⟩ heq
  simp only [Binding.rename, Binding.mk.injEq] at heq ⊢
  exact ⟨heq.1, hinjective heq.2.1, heq.2.2⟩

/-- The error without the name of the routing object it is about. -/
def ScanError.anonymous : ScanError → ScanError
  | .fatal (.severalRoutes _ file) => .fatal (.severalRoutes "" file)
  | error => error

/-- The same file with a renamed program.  Its comments and code tokens are those of
the text, which stays as it is. -/
def Context.rename (context : Context) (rename : String → String) : Context :=
  { context with file := { context.file with module := context.file.module.rename rename } }

theorem Context.rename_alike (context : Context) (rename : String → String) :
    (context.rename rename).Alike context :=
  ⟨rfl, rfl, rfl⟩

/-- A registration on a renamed object has the same block and reports the same. -/
theorem documentSighting_rename (context : Context) (rename : String → String)
    (sighting : Sighting) :
    documentSighting (context.rename rename) (sighting.rename rename) =
      documentSighting context sighting := by
  rw [(context.rename_alike rename).documentSighting_eq rfl]
  rfl

/-- Renamed sightings are documented alike, under renamed bindings. -/
theorem documentAll_rename (context : Context) (rename : String → String)
    (sightings : List Sighting) :
    documentAll (context.rename rename) (sightings.map (Sighting.rename rename)) = do
      let pairs ← documentAll context sightings
      return pairs.map (Prod.map (Binding.rename rename) id) := by
  induction sightings with
  | nil => rfl
  | cons sighting sightings ih =>
      rw [List.map_cons, documentAll_cons, documentAll_cons, documentSighting_rename, ih]
      simp only [bind_assoc, pure_bind, List.map_append]
      congr 1
      funext block
      congr 1
      funext pairs
      cases block <;> rfl

/-- Only the name in its error tells a renamed object from the object itself. -/
theorem routerOf_rename (context : Context) (rename : String → String) (binding : Binding)
    (routes : List Blueprint.Group) :
    (routerOf (context.rename rename) (binding.rename rename) routes).mapError
        ScanError.anonymous =
      (routerOf context binding routes).mapError ScanError.anonymous := by
  have hcomment : (binding.rename rename).declaration.bind
      (commentOf (context.rename rename).file) =
        binding.declaration.bind (commentOf context.file) := rfl
  unfold routerOf
  rw [hcomment, (context.rename_alike rename).typed.reportError_eq]
  cases binding.declaration.bind (commentOf context.file) with
  | none => rfl
  | some found =>
      dsimp only
      cases found.2.tagsOf "route" with
      | nil => rfl
      | cons first others => cases others <;> rfl

/-- Scanning depends on which names are the same, not on how they are spelled: after an
injective renaming that leaves the types of routing objects alone, a scan finds the same
routers and reports the same diagnostics, or fails with the same error up to the name of
the routing object in it. -/
theorem scan_rename (context : Context) (rename : String → String)
    (hinjective : Function.Injective rename)
    (hfixes : ∀ type ∈ context.config.routerTypes, rename type = type) :
    (scan (context.rename rename)).diagnostics = (scan context).diagnostics ∧
      (scan (context.rename rename)).result.mapError ScanError.anonymous =
        (scan context).result.mapError ScanError.anonymous := by
  have hscan : (scan (context.rename rename)).mapError ScanError.anonymous =
      (scan context).mapError ScanError.anonymous := by
    let spelling : Respelling context.config.routerTypes := ⟨rename, hinjective, hfixes⟩
    have hsightings : sightingsIn (context.rename rename).config.routerTypes
        (context.rename rename).file.module =
          (sightingsIn context.config.routerTypes context.file.module).map
            (Sighting.rename rename) :=
      spelling.sightingsIn_rename context.file.module
    rw [scan_eq_documentAll, scan_eq_documentAll, hsightings, documentAll_rename]
    simp only [bind_assoc, pure_bind, Reported.mapError_bind, Reported.mapError_forEach,
      gather_map_key (Binding.rename_injective hinjective), Reported.forEach_map]
    congr 1
    funext pairs
    congr 1
    funext group
    exact routerOf_rename context rename group.1 _
  have hdiagnostics := congrArg Reported.diagnostics hscan
  have hresult := congrArg Reported.result hscan
  exact ⟨hdiagnostics, hresult⟩

/-- Two routing objects exchange their names. -/
theorem scan_rename_sample :
    let context := sampleContext "# @response ok"
    let rename := Equiv.swap "api" "admin"
    Function.Injective rename ∧
      (∀ type ∈ context.config.routerTypes, rename type = type) ∧
      (scan (context.rename rename)).diagnostics = (scan context).diagnostics ∧
      (scan (context.rename rename)).result.mapError ScanError.anonymous =
        .ok sampleRouters := by
  intro context rename
  have hinjective : Function.Injective rename := rename.injective
  have hfixes : ∀ type ∈ context.config.routerTypes, rename type = type := by decide
  have hrename := scan_rename context rename hinjective hfixes
  rw [scan_sampleContext] at hrename
  exact ⟨hinjective, hfixes, hrename.1, hrename.2⟩

end RouteScribe.Route
