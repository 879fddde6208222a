import Mathlib.Tactic
import RouteScribe.Source.Grammar.Basic

/-!
# What rules yield from known tokens

A rule reads nothing but the tokens that it is given.  If all code among them is known, then
a rule leaves only such tokens, and what it yields can be told from them.  The laws below
carry this through the ways in which rules are put together.
-/

namespace RouteScribe.Source

/-- All code among tokens is known. -/
def AllKnown (known : Token → Prop) (tokens : List Token) : Prop :=
  ∀ token ∈ tokens, token.isCode → known token

variable {known : Token → Prop}

theorem AllKnown.tail {token : Token} {tokens : List Token}
    (hknown : AllKnown known (token :: tokens)) : AllKnown known tokens :=
  fun other hother => hknown other (List.mem_cons_of_mem token hother)

namespace Rule

variable {α β : Type} {good : α → Prop}

/-- From known tokens a rule yields something good, and it leaves known tokens. -/
def Yields (rule : Rule α) (known : Token → Prop) (good : α → Prop) : Prop :=
  ∀ ⦃tokens : List Token⦄, AllKnown known tokens → ∀ ⦃value : α⦄ ⦃rest : List Token⦄,
    rule tokens = some (value, rest) → good value ∧ AllKnown known rest

/-- A rule leaves known tokens, whatever it yields. -/
abbrev Passes (rule : Rule α) (known : Token → Prop) : Prop :=
  rule.Yields known fun _ => True

/-! ### Putting rules together -/

theorem Yields.mono {rule : Rule α} {fair : α → Prop} (hrule : rule.Yields known good)
    (hfair : ∀ value, good value → fair value) : rule.Yields known fair := by
  intro tokens hknown value rest hread
  exact (hrule hknown hread).imp_left (hfair value)

theorem Yields.passes {rule : Rule α} (hrule : rule.Yields known good) : rule.Passes known :=
  hrule.mono fun _ _ => trivial

theorem Yields.pure {value : α} (hvalue : good value) :
    (Pure.pure value : Rule α).Yields known good := by
  intro tokens hknown found rest hread
  cases hread
  exact ⟨hvalue, hknown⟩

theorem Yields.failure : (failure : Rule α).Yields known good := by
  intro tokens hknown found rest hread
  cases hread

theorem Yields.bind {rule : Rule β} {next : β → Rule α} {fair : β → Prop}
    (hrule : rule.Yields known fair)
    (hnext : ∀ value, fair value → (next value).Yields known good) :
    (rule >>= next).Yields known good := by
  intro tokens hknown found rest hread
  obtain ⟨⟨value, middle⟩, hvalue, hfound⟩ := Option.bind_eq_some_iff.mp hread
  obtain ⟨hfair, hmiddle⟩ := hrule hknown hvalue
  exact hnext value hfair hmiddle hfound

/-- A rule that goes on after one of which only the tokens matter. -/
theorem Yields.after {rule : Rule β} {next : β → Rule α} (hrule : rule.Passes known)
    (hnext : ∀ value, (next value).Yields known good) : (rule >>= next).Yields known good :=
  .bind hrule fun value _ => hnext value

theorem Yields.pureBind {value : β} {next : β → Rule α}
    (hnext : (next value).Yields known good) :
    (Pure.pure value >>= next).Yields known good := by
  rw [pure_bind]
  exact hnext

theorem Yields.map {rule : Rule β} {convert : β → α} {fair : β → Prop}
    (hrule : rule.Yields known fair) (hconvert : ∀ value, fair value → good (convert value)) :
    (convert <$> rule).Yields known good := by
  rw [map_eq_pure_bind]
  exact .bind hrule fun value hvalue => .pure (hconvert value hvalue)

/-- A node that is wrapped as one that may be missing. -/
theorem Yields.given {rule : Rule α} (hrule : rule.Yields known good) :
    (some <$> rule).Yields known fun found => ∀ value ∈ found, good value := by
  refine hrule.map fun value hvalue => ?_
  rintro _ ⟨⟩
  exact hvalue

theorem Yields.discard {rule : Rule α} (hrule : rule.Yields known good) :
    (discard rule).Passes known :=
  hrule.map fun _ _ => trivial

/-- A choice yields what both of its rules yield. -/
theorem Yields.orElse {rule other : Rule α} (hrule : rule.Yields known good)
    (hother : other.Yields known good) : (rule <|> other).Yields known good := by
  intro tokens hknown found rest hread
  have hread : (rule tokens <|> other tokens) = some (found, rest) := hread
  cases hfirst : rule tokens with
  | none =>
      rw [hfirst] at hread
      exact hother hknown hread
  | some result =>
      rw [hfirst] at hread
      cases hread
      exact hrule hknown hfirst

theorem Yields.choose {rule : Rule Bool} {next other : Rule α} (hrule : rule.Passes known)
    (hnext : next.Yields known good) (hother : other.Yields known good) :
    (do if ← rule then next else other).Yields known good := by
  refine .after hrule fun isChosen => ?_
  cases isChosen with
  | true => exact hnext
  | false => exact hother

/-- A rule that may look at all tokens first. -/
theorem Yields.getThen {next : List Token → Rule α}
    (hnext : ∀ tokens, (next tokens).Yields known good) :
    ((get : Rule (List Token)) >>= next).Yields known good := by
  intro tokens hknown found rest hread
  exact hnext tokens hknown hread

/-- A rule that looks at the next token first. -/
theorem Yields.peekThen {next : Token → Rule α}
    (hnext : ∀ token, (next token).Yields known good) :
    (Rule.peek >>= next).Yields known good := by
  intro tokens hknown found rest hread
  cases tokens with
  | nil => cases hread
  | cons token tokens => exact hnext token hknown hread

/-! ### Single tokens -/

theorem Passes.here : here.Passes known :=
  Yields.peekThen fun _ => .pure trivial

theorem Passes.nextIs (wanted : TokenKind) : (nextIs wanted).Passes known := by
  intro tokens hknown found rest hread
  cases tokens with
  | nil =>
      cases hread
      exact ⟨trivial, hknown⟩
  | cons token tokens =>
      cases hread
      exact ⟨trivial, hknown⟩

theorem Passes.kind (wanted : TokenKind) : (kind wanted).Passes known := by
  intro tokens hknown found rest hread
  cases tokens with
  | nil => cases hread
  | cons token tokens =>
      simp only [Rule.kind] at hread
      split at hread
      · cases hread
        exact ⟨trivial, hknown.tail⟩
      · cases hread

theorem Passes.symbol (text : String) : (symbol text).Passes known :=
  .kind (.symbol text)

theorem Passes.keyword (text : String) : (keyword text).Passes known :=
  .kind (.name text)

theorem Passes.name : name.Passes known := by
  intro tokens hknown found rest hread
  cases tokens with
  | nil => cases hread
  | cons token tokens =>
      simp only [Rule.name] at hread
      split at hread
      · split at hread
        · cases hread
        · cases hread
          exact ⟨trivial, hknown.tail⟩
      · cases hread

theorem Passes.takeSymbol (text : String) : (takeSymbol text).Passes known :=
  .orElse (.after (.symbol text) fun _ => .pure trivial) (.pure trivial)

theorem Passes.takeKeyword (text : String) : (takeKeyword text).Passes known :=
  .orElse (.after (.keyword text) fun _ => .pure trivial) (.pure trivial)

theorem Yields.ifSymbol {next other : Rule α} (text : String) (hnext : next.Yields known good)
    (hother : other.Yields known good) :
    (do if ← Rule.takeSymbol text then next else other).Yields known good :=
  .choose (.takeSymbol text) hnext hother

theorem Yields.ifKeyword {next other : Rule α} (text : String) (hnext : next.Yields known good)
    (hother : other.Yields known good) :
    (do if ← Rule.takeKeyword text then next else other).Yields known good :=
  .choose (.takeKeyword text) hnext hother

theorem Yields.ifNext {next other : Rule α} (wanted : TokenKind)
    (hnext : next.Yields known good) (hother : other.Yields known good) :
    (do if ← Rule.nextIs wanted then next else other).Yields known good :=
  .choose (.nextIs wanted) hnext hother

theorem Passes.check (condition : Bool) : (check condition).Passes known := by
  unfold Rule.check
  split
  · exact .pure trivial
  · exact .failure

/-! ### Repetition -/

theorem forall_mem_none : ∀ value ∈ (none : Option α), good value :=
  fun value hvalue => absurd hvalue (Option.not_mem_none value)

theorem Yields.maybe {rule : Rule α} (hrule : rule.Yields known good) :
    (maybe rule).Yields known fun found => ∀ value ∈ found, good value := by
  refine .orElse (.bind hrule fun value hvalue => .pure ?_) (.pure forall_mem_none)
  rintro _ ⟨⟩
  exact hvalue

theorem Yields.manyUpTo {rule : Rule α} (hrule : rule.Yields known good) (fuel : Nat) :
    (manyUpTo rule fuel).Yields known fun nodes => ∀ node ∈ nodes, good node := by
  induction fuel with
  | zero => exact .pure (List.forall_mem_nil _)
  | succ fuel ih =>
      refine .orElse (.bind hrule fun node hnode => .bind ih fun nodes hnodes => .pure ?_)
        (.pure (List.forall_mem_nil _))
      exact List.forall_mem_cons.mpr ⟨hnode, hnodes⟩

theorem Yields.many {rule : Rule α} (hrule : rule.Yields known good) :
    (many rule).Yields known fun nodes => ∀ node ∈ nodes, good node :=
  .getThen fun tokens => hrule.manyUpTo tokens.length

theorem Yields.many1 {rule : Rule α} (hrule : rule.Yields known good) :
    (many1 rule).Yields known fun nodes => ∀ node ∈ nodes, good node :=
  .bind hrule fun _ hnode => .bind hrule.many fun _ hnodes =>
    .pure (List.forall_mem_cons.mpr ⟨hnode, hnodes⟩)

theorem Yields.separated {rule : Rule α} (separator : String) (hrule : rule.Yields known good) :
    (separated separator rule).Yields known fun nodes => ∀ node ∈ nodes, good node := by
  have hnext : (do Rule.symbol separator; rule : Rule α).Yields known good :=
    .after (.symbol separator) fun _ => hrule
  exact .bind hrule fun _ hnode => .bind hnext.many fun _ hnodes =>
    .pure (List.forall_mem_cons.mpr ⟨hnode, hnodes⟩)

theorem Yields.commaList {rule : Rule α} (hrule : rule.Yields known good) :
    (commaList rule).Yields known fun list => ∀ node ∈ list.1, good node :=
  .bind (hrule.separated ",") fun _ hnodes => .after (.takeSymbol ",") fun _ => .pure hnodes

/-- A chain of steps yields good nodes if each step takes good nodes to good ones. -/
theorem Yields.extend {step : α → Rule α}
    (hstep : ∀ node, good node → (step node).Yields known good) {node : α} (hnode : good node) :
    (extend step node).Yields known good := by
  have hupTo : ∀ (fuel : Nat) (node : α), good node →
      (extendUpTo step fuel node).Yields known good := by
    intro fuel
    induction fuel with
    | zero => exact fun node hnode => .pure hnode
    | succ fuel ih =>
        intro node hnode
        exact .orElse (.bind (hstep node hnode) ih) (.pure hnode)
  exact .getThen fun tokens => hupTo tokens.length node hnode

theorem Yields.firstOf {choices : List (Rule α)}
    (hall : ∀ rule ∈ choices, rule.Yields known good) : (firstOf choices).Yields known good := by
  induction choices with
  | nil => exact .failure
  | cons rule choices ih =>
      refine .orElse (hall rule List.mem_cons_self) (ih fun other hother => ?_)
      exact hall other (List.mem_cons_of_mem _ hother)

end Rule

end RouteScribe.Source
