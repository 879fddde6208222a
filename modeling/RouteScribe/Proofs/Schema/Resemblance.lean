import RouteScribe.Proofs.Schema.Shift

/-!
# What another stack can change

Under another stack, a call of a type that has a schema may come to bases that were left
out before, and may come back to names that were not in the way.  It can then fail, but
only because a type contains itself: all that its unions see of their members is the
same, so that none of them refuses its members there.
-/

namespace RouteScribe.Schema

open RouteScribe.Source Relation

variable {table : TypeTable} {root call : Call} {other stack : List String} {schema : Schema}

/-! ### What a union sees -/

/-- What a union sees of a member. -/
inductive Look where
  | plain (kind : Kind)
  | choice
  | other

def look : Schema → Look
  | .primitive kind none => .plain kind
  | .oneOfKinds _ => .choice
  | _ => .other

def plainLooks? : List Look → Resolved (Option (List Kind))
  | [] => pure (some [])
  | .plain kind :: looks => do return (← plainLooks? looks).map (kind :: ·)
  | .choice :: _ => throw .nestedKinds
  | .other :: _ => pure none

/-- The kinds of members depend on their looks alone. -/
theorem plainKinds_eq (schemas : List Schema) :
    plainKinds? schemas = plainLooks? (schemas.map look) := by
  fun_induction plainKinds? schemas with
  | case1 => rfl
  | case2 kind members ih => rw [ih, List.map_cons, look, plainLooks?]
  | case3 kinds members => rfl
  | case4 schema members hprimitive hchoice =>
      have hother : look schema = .other := by
        fun_cases look schema with
        | case1 kind => exact absurd rfl (hprimitive kind)
        | case2 kinds => exact absurd rfl (hchoice kinds)
        | case3 => rfl
      rw [List.map_cons, hother, plainLooks?]

/-! ### Resemblance -/

/-- A result resembles a value: it looks the same, or it is missing because a type
contains itself. -/
def Resembles {α β : Type} (look : α → β) (result : Resolved α) (value : α) : Prop :=
  (∃ name, result = .error (.fault (.recursive name))) ∨
    ∃ found, result = .ok found ∧ look found = look value

namespace Resembles

variable {α β γ δ : Type} {look : α → β} {result : Resolved α} {value : α}

theorem refl (look : α → β) (value : α) : Resembles look (.ok value) value :=
  .inr ⟨value, rfl, rfl⟩

theorem bind {view : γ → δ} {next : α → Resolved γ} {final : γ}
    (hresult : Resembles look result value)
    (hnext : ∀ found, look found = look value → Resembles view (next found) final) :
    Resembles view (result >>= next) final := by
  rcases hresult with ⟨name, rfl⟩ | ⟨found, rfl, hlook⟩
  · exact .inl ⟨name, rfl⟩
  · exact hnext found hlook

/-- Results that resemble each other one by one do so as lists. -/
theorem mapM {f g : γ → Resolved α} {xs : List γ} {values : List α}
    (hvalues : xs.mapM f = .ok values)
    (hall : ∀ x ∈ xs, ∀ value, f x = .ok value → Resembles look (g x) value) :
    Resembles (List.map look) (xs.mapM g) values := by
  rw [mapM_eq_ok_iff] at hvalues
  induction hvalues with
  | nil => exact .refl _ _
  | @cons x value xs values hx hxs ih =>
      rw [List.mapM_cons]
      refine (hall x List.mem_cons_self value hx).bind fun found hfound => ?_
      refine (ih fun y hy => hall y (List.mem_cons_of_mem x hy)).bind fun rest hrest => ?_
      exact .inr ⟨_, rfl, by rw [List.map_cons, List.map_cons, hfound, hrest]⟩

end Resembles

/-- The union of members that look alike looks alike. -/
theorem resembles_unionSchema {schemas found : List Schema}
    (hlook : found.map look = schemas.map look) (hunion : unionSchema schemas = .ok schema) :
    Resembles look (unionSchema found) schema := by
  revert hunion
  fun_cases unionSchema schemas with
  | case1 =>
      intro hunion
      cases hunion
      rw [List.map_eq_nil_iff.mp hlook]
      exact .refl _ _
  | case2 single =>
      intro hunion
      cases hunion
      obtain ⟨other, rest, rfl, hother, hrest⟩ := List.map_eq_cons_iff.mp hlook
      rw [List.map_eq_nil_iff.mp hrest]
      exact .inr ⟨other, rfl, hother⟩
  | case3 _ hempty hsingle =>
      intro hunion
      rw [unionSchema, plainKinds_eq, hlook, ← plainKinds_eq]
      · cases hkinds : plainKinds? schemas with
        | error err => simp [hkinds, bind, Except.bind] at hunion
        | ok kinds =>
            rw [hkinds] at hunion
            cases kinds with
            | none =>
                cases hunion
                exact .inr ⟨_, rfl, rfl⟩
            | some kinds => exact .inr ⟨schema, hunion, rfl⟩
      · rintro rfl
        exact hempty (List.map_eq_nil_iff.mp hlook.symm)
      · rintro single rfl
        obtain ⟨other, rest, hschemas, -, hrest⟩ := List.map_eq_cons_iff.mp hlook.symm
        rw [List.map_eq_nil_iff.mp hrest] at hschemas
        exact hsingle other hschemas

/-! ### Types and classes under another stack -/

/-- A type resembles itself under another stack if its parts and its name do. -/
theorem resembles_form {form : TypeForm} {resolver : Resolver}
    (hparts : ∀ part, .part (.ok part) ∈ form.items → ∀ answer,
      resolver.type stack part = .ok answer → Resembles look (resolver.type other part) answer)
    (hname : ∀ id, .name id ∈ form.items → ∀ answer,
      resolver.perform (table.enter stack id) = .ok answer →
      Resembles look (resolver.perform (table.enter other id)) answer)
    (hanswer : form.resolve table resolver stack = .ok schema) :
    Resembles look (form.resolve table resolver other) schema := by
  cases form with
  | settled result =>
      rw [TypeForm.resolve_settled] at hanswer ⊢
      exact .inr ⟨schema, hanswer, rfl⟩
  | named id =>
      rw [TypeForm.resolve_named] at hanswer ⊢
      cases hbuiltin : builtinSchema? id with
      | some builtin =>
          simp only [resolveName, hbuiltin] at hanswer ⊢
          exact .inr ⟨schema, hanswer, rfl⟩
      | none =>
          rw [resolveName_eq _ _ _ _ hbuiltin] at hanswer ⊢
          exact hname id (by simp [TypeForm.items, hbuiltin]) schema hanswer
  | same inside =>
      rw [TypeForm.resolve_same] at hanswer ⊢
      exact hparts inside List.mem_cons_self schema hanswer
  | listOf item =>
      rw [TypeForm.resolve_listOf] at hanswer ⊢
      obtain ⟨answer, hitem, hlist⟩ := bind_eq_ok hanswer
      cases hlist
      exact (hparts item List.mem_cons_self answer hitem).bind fun found _ => .inr ⟨_, rfl, rfl⟩
  | mappingTo value =>
      rw [TypeForm.resolve_mappingTo] at hanswer ⊢
      obtain ⟨answer, hvalue, hmapping⟩ := bind_eq_ok hanswer
      cases hmapping
      exact (hparts value List.mem_cons_self answer hvalue).bind fun found _ => .inr ⟨_, rfl, rfl⟩
  | tupleOf exprs =>
      rw [TypeForm.resolve_tupleOf] at hanswer ⊢
      obtain ⟨answers, hitems, htuple⟩ := bind_eq_ok hanswer
      cases htuple
      refine (Resembles.mapM hitems fun part hpart => hparts part ?_).bind fun found _ =>
        .inr ⟨_, rfl, rfl⟩
      exact List.mem_map_of_mem (f := fun expr => Item.part (.ok expr)) hpart
  | unionOf members =>
      rw [TypeForm.resolve_unionOf] at hanswer ⊢
      obtain ⟨answers, hmembers, hunion⟩ := bind_eq_ok hanswer
      refine (Resembles.mapM hmembers fun part hpart => hparts part ?_).bind fun found hfound =>
        resembles_unionSchema hfound hunion
      exact List.mem_map_of_mem (f := fun expr => Item.part (.ok expr)) hpart

/-- A union sees nothing of a class. -/
theorem look_of_resolveClass {resolver : Resolver} {definition : ClassDef}
    (hanswer : resolveClass table resolver stack definition = .ok schema) :
    look schema = .other := by
  unfold resolveClass at hanswer
  dsimp only at hanswer
  split at hanswer
  · cases hanswer
    unfold enumSchema
    dsimp only
    split
    · rfl
    · split
      · rfl
      · rfl
  · split at hanswer
    · obtain ⟨answers, -, htuple⟩ := bind_eq_ok hanswer
      cases htuple
      rfl
    · obtain ⟨inherited, -, hanswer⟩ := bind_eq_ok hanswer
      obtain ⟨additional, -, hanswer⟩ := bind_eq_ok hanswer
      obtain ⟨members, -, hobject⟩ := bind_eq_ok hanswer
      cases hobject
      rfl

/-- A class resembles itself under another stack if everything that it asks for there
resembles something. -/
theorem resembles_class {definition : ClassDef}
    (hanswer : table.resolver.answer (.classType stack definition) = .ok schema)
    (hsubs : ∀ sub, Call.Requests table (.classType other definition) sub →
      ∃ answer, Resembles look (table.resolver.answer sub) answer) :
    Resembles look (table.resolver.answer (.classType other definition)) schema := by
  rw [← table.answer_step_resolver] at hanswer
  cases hother : table.resolver.answer (.classType other definition) with
  | ok found =>
      rw [← table.answer_step_resolver] at hother
      exact .inr ⟨found, rfl, by rw [look_of_resolveClass hother, look_of_resolveClass hanswer]⟩
  | error err =>
      rw [← table.answer_step_resolver, Resolver.answer_step_eq_error_iff] at hother
      rcases hother with ⟨before, request, after, hsplit, -, hrequest⟩ | ⟨_, _, _, _, _, heq, -⟩
      · have hmem : request ∈ (Call.classType other definition).requests table := by simp [hsplit]
        cases request with
        | ok sub =>
            rw [Resolver.perform_ok] at hrequest
            obtain ⟨answer, ⟨name, hrecursive⟩ | ⟨found, hfound, -⟩⟩ := hsubs sub hmem
            · rw [hrequest] at hrecursive
              exact .inl ⟨name, hrecursive⟩
            · rw [hrequest] at hfound
              cases hfound
        | error first =>
            rcases error_mem_requests.mp hmem with hitem | ⟨id, hitem | ⟨hitem, hid⟩, henter⟩
            · have herror : .error first ∈ (Call.classType stack definition).requests table :=
                error_mem_requests.mpr (.inl hitem)
              obtain ⟨answer, hperform⟩ := Resolver.perform_of_answer_step hanswer herror
              cases hperform
            · exact absurd hitem name_notMem_classItems
            · obtain ⟨found, -, hok⟩ := enter_base hitem hid
              rw [hok] at henter
              cases henter
      · cases heq

/-- Whatever a call comes to has been entered somewhere. -/
theorem exists_entry_of_item (hroot : root.stack = [])
    (hpath : ReflTransGen (Call.Requests table) root call)
    (hanswer : table.resolver.answer call = .ok schema) {id : String}
    (hitem : .name id ∈ call.items table ∨ .base id ∈ call.items table) :
    ∃ before entry, table.enter before id = .ok entry ∧
      ReflTransGen (Call.Requests table) root entry := by
  by_cases hid : id ∈ call.stack
  · obtain ⟨before, after, hstack⟩ := List.append_of_mem hid
    obtain ⟨entry, henter, hentry, -⟩ := Call.entry_on_path hroot hpath hstack
    exact ⟨before, entry, henter, hentry⟩
  · obtain ⟨entry, henter⟩ := exists_enter_of_item hanswer hitem hid
    exact ⟨call.stack, entry, henter, hpath.tail (ok_mem_requests.mpr (.inr ⟨id, hitem, henter⟩))⟩

/-- Within a type that has a schema, a call under another stack either looks the same or
comes to a type that contains itself. -/
theorem resembles_withStack {whole : Schema} (hroot : root.stack = [])
    (hresolved : table.resolver.answer root = .ok whole)
    (hpath : ReflTransGen (Call.Requests table) root call)
    (hanswer : table.resolver.answer call = .ok schema) (other : List String) :
    Resembles look (table.resolver.answer (call.withStack other)) schema := by
  induction hneed : (call.withStack other).need table using Nat.strong_induction_on
    generalizing call schema other with
  | _ need ih =>
      -- The call may enter more names than before, bases that were left out among them, but
      -- under the other stack it still needs less with each of them.
      have hpart : ∀ part, .part (.ok part) ∈ call.items table → ∀ answer,
          table.resolver.type call.stack part = .ok answer →
          Resembles look (table.resolver.type other part) answer := by
        intro part hitem answer hpart
        have hsub : call.Requests table (.type call.stack part) :=
          ok_mem_requests.mpr (.inl ⟨part, hitem, rfl⟩)
        have hmoved : (call.withStack other).Requests table (.type other part) := by
          refine ok_mem_requests.mpr (.inl ⟨part, by rwa [Call.items_withStack], ?_⟩)
          rw [Call.stack_withStack]
        have hlt := (Call.descends_of_mem_requests hmoved).need_lt
        exact ih _ (hneed ▸ hlt) (hpath.tail hsub) hpart other rfl
      have hentry : ∀ id, (.name id ∈ call.items table ∨ .base id ∈ call.items table) →
          ∀ before entry, table.enter before id = .ok entry →
          ReflTransGen (Call.Requests table) root entry → ∀ answer,
          table.resolver.answer entry = .ok answer →
          Resembles look (table.resolver.perform (table.enter other id)) answer := by
        intro id hitem before entry henter hreached answer hentry
        by_cases hid : id ∈ other
        · rw [enter_of_mem hid]
          exact .inl ⟨id, rfl⟩
        · have hmoved :
              (call.withStack other).Requests table (entry.withStack (other ++ [id])) := by
            refine ok_mem_requests.mpr (.inr ⟨id, by rwa [Call.items_withStack], ?_⟩)
            rw [Call.stack_withStack, enter_withStack henter hid]
          have hlt := (Call.descends_of_mem_requests hmoved).need_lt
          rw [enter_withStack henter hid]
          exact ih _ (hneed ▸ hlt) hreached hentry (other ++ [id]) rfl
      cases call with
      | type stack expr =>
          rw [← table.answer_step_resolver] at hanswer ⊢
          change resolveType table table.resolver stack expr = .ok schema at hanswer
          change Resembles look (resolveType table table.resolver other expr) schema
          rw [TypeForm.resolveType_eq] at hanswer ⊢
          refine resembles_form hpart (fun id hitem answer hname => ?_) hanswer
          change table.resolver.perform (table.enter stack id) = .ok answer at hname
          cases henter : table.enter stack id with
          | error err =>
              rw [henter] at hname
              cases hname
          | ok entry =>
              rw [henter] at hname
              have hsub : Call.Requests table (.type stack expr) entry :=
                ok_mem_requests.mpr (.inr ⟨id, .inl hitem, henter⟩)
              exact hentry id (.inl hitem) stack entry henter (hpath.tail hsub) answer hname
      | classType stack definition =>
          refine resembles_class hanswer fun sub hrequests => ?_
          rcases ok_mem_requests.mp hrequests with ⟨part, hitem, rfl⟩ | ⟨id, hitem, henter⟩
          · have hsub : Call.Requests table (.classType stack definition) (.type stack part) :=
              ok_mem_requests.mpr (.inl ⟨part, hitem, rfl⟩)
            obtain ⟨answer, hsubAnswer⟩ := hsub.answer_ok hanswer
            exact ⟨answer, hpart part hitem answer hsubAnswer⟩
          · obtain ⟨before, entry, hbefore, hreached⟩ :=
              exists_entry_of_item hroot hpath hanswer hitem
            obtain ⟨answer, hentryAnswer⟩ := answer_ok_of_path hreached hresolved
            have hresembles := hentry id hitem before entry hbefore hreached answer hentryAnswer
            change table.enter other id = .ok sub at henter
            rw [henter, Resolver.perform_ok] at hresembles
            exact ⟨answer, hresembles⟩

end RouteScribe.Schema
