import RouteScribe.Proofs.Source.Weight

/-!
# Nodes paid for with tokens

A cost for the nodes of the grammar is covered if every rule takes tokens of at least
the weight that its node costs.  The laws below carry this through the ways in which
rules are put together.  Where a rule extends a node that has been paid for already, or
goes on after other rules, what was paid before is its credit.
-/

namespace RouteScribe.Source.Rule

variable {α β : Type} {credit : Nat} {cost : α → Nat}

/-- The tokens that a rule takes off the given ones and its credit pay for what it
yields. -/
def PaysAt (rule : Rule α) (credit : Nat) (cost : α → Nat) (tokens : List Token) : Prop :=
  ∀ ⦃value : α⦄ ⦃rest : List Token⦄,
    rule tokens = some (value, rest) → cost value + weigh rest ≤ credit + weigh tokens

/-- The tokens that a rule takes and its credit pay for what it yields. -/
def Pays (rule : Rule α) (credit : Nat) (cost : α → Nat) : Prop :=
  ∀ ⦃tokens : List Token⦄, rule.PaysAt credit cost tokens

/-! ### Putting rules together -/

theorem Pays.on {rule : Rule α} (hrule : rule.Pays credit cost) (tokens : List Token) :
    rule.PaysAt credit cost tokens := by
  intro value rest hread
  exact hrule hread

theorem Pays.of_le {rule : Rule α} {paid : α → Nat} (hrule : rule.Pays 0 paid)
    (hle : ∀ value, cost value ≤ credit + paid value) : rule.Pays credit cost := by
  intro tokens value rest hread
  have hpaid := hrule hread
  have hcost := hle value
  omega

theorem Pays.keep {rule : Rule α} (hrule : rule.Pays 0 cost) : rule.Pays credit cost :=
  hrule.of_le fun _ => Nat.le_add_left _ _

theorem Pays.free {rule : Rule α} (hrule : rule.Pays 0 cost) : rule.Pays credit fun _ => 0 :=
  hrule.of_le fun _ => Nat.zero_le _

theorem Pays.pure {value : α} (hle : cost value ≤ credit) :
    (Pure.pure value : Rule α).Pays credit cost := by
  intro tokens found rest hread
  cases hread
  exact Nat.add_le_add_right hle _

theorem Pays.failure : (failure : Rule α).Pays credit cost := by
  intro tokens found rest hread
  cases hread

theorem Pays.bind {rule : Rule β} {next : β → Rule α} {paid : β → Nat}
    (hrule : rule.Pays 0 paid) (hnext : ∀ value, (next value).Pays (credit + paid value) cost) :
    (rule >>= next).Pays credit cost := by
  intro tokens found rest hread
  obtain ⟨⟨value, middle⟩, hvalue, hfound⟩ := Option.bind_eq_some_iff.mp hread
  have hfirst := hrule hvalue
  have hsecond := hnext value hfound
  omega

theorem Pays.pureBind {value : β} {next : β → Rule α} (hnext : (next value).Pays credit cost) :
    (Pure.pure value >>= next).Pays credit cost := by
  rw [pure_bind]
  exact hnext

/-- A choice pays what either of its rules pays. -/
theorem Pays.orElse {rule other : Rule α} (hrule : rule.Pays credit cost)
    (hother : other.Pays credit cost) : (rule <|> other).Pays credit cost := by
  intro tokens found rest hread
  have hread : (rule tokens <|> other tokens) = some (found, rest) := hread
  cases hfirst : rule tokens with
  | none =>
      rw [hfirst] at hread
      exact hother hread
  | some result =>
      rw [hfirst] at hread
      cases hread
      exact hrule hfirst

theorem Pays.choose {rule : Rule Bool} {next other : Rule α} {paid : Bool → Nat}
    (hrule : rule.Pays 0 paid) (hnext : next.Pays (credit + paid true) cost)
    (hother : other.Pays (credit + paid false) cost) :
    (do if ← rule then next else other).Pays credit cost := by
  refine .bind hrule fun isChosen => ?_
  cases isChosen with
  | true => exact hnext
  | false => exact hother

/-- A choice that takes nothing. -/
theorem Pays.test {rule : Rule Bool} {next other : Rule α} (hrule : rule.Pays 0 fun _ => 0)
    (hnext : next.Pays credit cost) (hother : other.Pays credit cost) :
    (do if ← rule then next else other).Pays credit cost :=
  .choose hrule hnext hother

/-! ### Single tokens -/

theorem Pays.get : (get : Rule (List Token)).Pays 0 fun _ => 0 := by
  intro tokens found rest hread
  cases hread
  exact le_rfl

theorem Pays.peek : peek.Pays 0 fun _ => 0 := by
  intro tokens found rest hread
  cases tokens with
  | nil => cases hread
  | cons token tokens =>
      cases hread
      exact le_rfl

/-- A rule that looks at the next token first may count on that token. -/
theorem Pays.peekThen {next : Token → Rule α}
    (hnext : ∀ token tokens, (next token).PaysAt credit cost (token :: tokens)) :
    (Rule.peek >>= next).Pays credit cost := by
  intro tokens found rest hread
  cases tokens with
  | nil => cases hread
  | cons token tokens => exact hnext token tokens hread

theorem Pays.here : here.Pays 0 fun _ => 0 :=
  .bind .peek fun _ => .pure le_rfl

theorem Pays.nextIs (wanted : TokenKind) : (nextIs wanted).Pays 0 fun _ => 0 := by
  intro tokens found rest hread
  cases tokens with
  | nil =>
      cases hread
      exact le_rfl
  | cons token tokens =>
      cases hread
      exact le_rfl

/-- A token pays its weight. -/
theorem Pays.kind (wanted : TokenKind) : (kind wanted).Pays 0 fun _ => wanted.weight := by
  intro tokens found rest hread
  cases tokens with
  | nil => cases hread
  | cons token tokens =>
      simp only [Rule.kind] at hread
      split at hread
      · rename_i hkind
        cases hread
        simp [hkind]
      · cases hread

theorem Pays.symbol (text : String) : (symbol text).Pays 0 fun _ => 1 :=
  .kind (.symbol text)

theorem Pays.keyword (text : String) : (keyword text).Pays 0 fun _ => 1 :=
  .kind (.name text)

theorem Pays.name : name.Pays 0 fun _ => 1 := by
  intro tokens found rest hread
  cases tokens with
  | nil => cases hread
  | cons token tokens =>
      simp only [Rule.name] at hread
      split at hread
      · rename_i text hkind
        split at hread
        · cases hread
        · cases hread
          simp [hkind, TokenKind.weight]
      · cases hread

theorem Pays.takeSymbol (text : String) :
    (takeSymbol text).Pays 0 fun isTaken => if isTaken then 1 else 0 :=
  .orElse (.bind (.symbol text) fun _ => .pure le_rfl) (.pure le_rfl)

theorem Pays.takeKeyword (text : String) :
    (takeKeyword text).Pays 0 fun isTaken => if isTaken then 1 else 0 :=
  .orElse (.bind (.keyword text) fun _ => .pure le_rfl) (.pure le_rfl)

theorem Pays.ifSymbol {next other : Rule α} (text : String)
    (hnext : next.Pays (credit + 1) cost) (hother : other.Pays credit cost) :
    (do if ← Rule.takeSymbol text then next else other).Pays credit cost :=
  .choose (.takeSymbol text) hnext hother

theorem Pays.ifKeyword {next other : Rule α} (text : String)
    (hnext : next.Pays (credit + 1) cost) (hother : other.Pays credit cost) :
    (do if ← Rule.takeKeyword text then next else other).Pays credit cost :=
  .choose (.takeKeyword text) hnext hother

theorem Pays.check (condition : Bool) : (check condition).Pays 0 fun _ => 0 := by
  unfold Rule.check
  split
  · exact .pure le_rfl
  · exact .failure

/-! ### Repetition -/

def total (cost : α → Nat) (nodes : List α) : Nat :=
  (nodes.map cost).sum

@[simp]
theorem total_nil (cost : α → Nat) : total cost [] = 0 := rfl

@[simp]
theorem total_cons (cost : α → Nat) (node : α) (nodes : List α) :
    total cost (node :: nodes) = cost node + total cost nodes := by
  simp [total]

theorem Pays.maybe {rule : Rule α} (hrule : rule.Pays 0 cost) :
    (maybe rule).Pays 0 fun found => found.elim 0 cost :=
  .orElse (.bind hrule fun _ => .pure (Nat.zero_add _).ge) (.pure le_rfl)

theorem Pays.manyUpTo {rule : Rule α} (hrule : rule.Pays 0 cost) (fuel : Nat) :
    (manyUpTo rule fuel).Pays 0 (total cost) := by
  induction fuel with
  | zero => exact .pure le_rfl
  | succ fuel ih =>
      refine .orElse (.bind hrule fun node => .bind ih fun nodes => .pure ?_) (.pure le_rfl)
      simp

theorem Pays.many {rule : Rule α} (hrule : rule.Pays 0 cost) :
    (many rule).Pays 0 (total cost) :=
  .bind .get fun tokens => hrule.manyUpTo tokens.length

theorem Pays.many1 {rule : Rule α} (hrule : rule.Pays 0 cost) :
    (many1 rule).Pays 0 (total cost) := by
  refine .bind hrule fun node => .bind hrule.many fun nodes => .pure ?_
  simp

/-- Nodes between symbols, for any cost of the whole list that its nodes cover. -/
theorem Pays.separated {rule : Rule α} {paid : List α → Nat} (separator : String)
    (hrule : rule.Pays 0 cost)
    (hlist : ∀ node nodes, paid (node :: nodes) ≤ cost node + total cost nodes) :
    (separated separator rule).Pays 0 paid := by
  have hnext : (do Rule.symbol separator; rule : Rule α).Pays 0 cost :=
    .bind (.symbol separator) fun _ => hrule.keep
  refine .bind hrule fun node => .bind hnext.many fun nodes => .pure ?_
  rw [Nat.zero_add]
  exact hlist node nodes

theorem Pays.commaList {rule : Rule α} {paid : List α → Nat} (hrule : rule.Pays 0 cost)
    (hlist : ∀ node nodes, paid (node :: nodes) ≤ cost node + total cost nodes) :
    (commaList rule).Pays 0 fun list => paid list.1 := by
  refine .bind (hrule.separated "," hlist) fun nodes => .bind (.takeSymbol ",") fun _ => .pure ?_
  exact (Nat.zero_add (paid nodes)).ge.trans (Nat.le_add_right _ _)

theorem Pays.freeList {rule : Rule α} (hrule : rule.Pays 0 cost) :
    (Rule.commaList rule).Pays 0 fun _ => 0 :=
  (hrule.commaList fun node nodes => (total_cons cost node nodes).le).free

/-- A chain of steps pays if each step pays for what it adds. -/
theorem Pays.extend {step : α → Rule α} (hstep : ∀ node, (step node).Pays (cost node) cost)
    (node : α) : (extend step node).Pays (cost node) cost := by
  have hupTo : ∀ (fuel : Nat) (node : α), (extendUpTo step fuel node).Pays (cost node) cost := by
    intro fuel
    induction fuel with
    | zero => exact fun node => .pure le_rfl
    | succ fuel ih =>
        intro node
        refine .orElse ?_ (.pure le_rfl)
        intro tokens found rest hread
        obtain ⟨⟨longer, middle⟩, hlonger, hfound⟩ := Option.bind_eq_some_iff.mp hread
        exact (ih longer hfound).trans (hstep node hlonger)
  exact .bind .get fun tokens => hupTo tokens.length node

theorem Pays.firstOf {choices : List (Rule α)} (hall : ∀ rule ∈ choices, rule.Pays credit cost) :
    (firstOf choices).Pays credit cost := by
  induction choices with
  | nil => exact .failure
  | cons rule choices ih =>
      refine .orElse (hall rule List.mem_cons_self) (ih fun other hother => ?_)
      exact hall other (List.mem_cons_of_mem _ hother)

end RouteScribe.Source.Rule
