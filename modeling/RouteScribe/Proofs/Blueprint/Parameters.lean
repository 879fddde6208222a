import Mathlib.Data.List.Basic
import RouteScribe.Blueprint.Path
import RouteScribe.Proofs.Text.Lines

/-!
# Parameters of a path

A path is formatted segment by segment: what follows the first colon of a segment is the name
of its parameter, colons included.  Formatting a path a second time looks for colons again,
also in the names that have been put in braces, so it changes nothing exactly if no segment
has two colons.
-/

namespace RouteScribe.Blueprint

open RouteScribe.Text

/-! ### Segments -/

/-- Formatting adds nothing but braces. -/
theorem mem_formatFrom {inName : Bool} {text : List Char} {c : Char}
    (hc : c ∈ formatFrom inName text) : c ∈ text ∨ c = '{' ∨ c = '}' := by
  fun_induction formatFrom inName text with
  | case1 => exact .inr (.inr (List.mem_singleton.mp hc))
  | case2 => cases hc
  | case3 rest ih => grind
  | case4 first rest hslash ih => grind
  | case5 first rest hopen ih => grind
  | case6 first rest hopen ih => grind

theorem slash_notMem_formatFrom {inName : Bool} {text : List Char} (htext : '/' ∉ text) :
    '/' ∉ formatFrom inName text := by
  intro hmem
  rcases mem_formatFrom hmem with hold | hbrace | hbrace
  · exact htext hold
  · exact absurd hbrace (by decide)
  · exact absurd hbrace (by decide)

variable {front name segment rest : List Char}

/-- A name ends with its segment. -/
theorem formatFrom_true_append (hname : '/' ∉ name) (hrest : ∀ c ∈ rest.head?, c = '/') :
    formatFrom true (name ++ rest) = name ++ '}' :: formatFrom false rest := by
  induction name with
  | nil =>
      cases rest with
      | nil => rfl
      | cons c rest =>
          obtain rfl : c = '/' := hrest c rfl
          rfl
  | cons c name ih =>
      rw [List.mem_cons, not_or] at hname
      rw [List.cons_append, formatFrom, if_neg (Ne.symm hname.1), ih hname.2, List.cons_append]

/-- Nothing happens before the first colon. -/
theorem formatFrom_append (hfront : ':' ∉ front) (rest : List Char) :
    formatFrom false (front ++ rest) = front ++ formatFrom false rest := by
  induction front with
  | nil => rfl
  | cons c front ih =>
      rw [List.mem_cons, not_or] at hfront
      rw [List.cons_append, formatFrom, if_neg (fun hopen => hfront.1 hopen.1.symm),
        ih hfront.2, List.cons_append]

/-- A segment without a parameter stays as it is: it has at most a colon at its end. -/
theorem formatFrom_plain (hplain : ':' ∉ segment.dropLast) (hrest : ∀ c ∈ rest.head?, c = '/') :
    formatFrom false (segment ++ rest) = segment ++ formatFrom false rest := by
  rcases List.eq_nil_or_concat' segment with rfl | ⟨front, last, rfl⟩
  · rfl
  · rw [List.dropLast_concat] at hplain
    have hlast : formatFrom false (last :: rest) = last :: formatFrom false rest := by
      rw [formatFrom, if_neg]
      rintro ⟨-, hopen⟩
      cases rest with
      | nil => cases hopen
      | cons c rest => simp [hrest c rfl] at hopen
    rw [List.append_assoc, formatFrom_append hplain, List.singleton_append, hlast,
      List.append_assoc, List.singleton_append]

/-- The first colon of a segment with more after it opens the name of its parameter. -/
theorem formatFrom_parameter (hfront : ':' ∉ front) (hne : name ≠ []) (hname : '/' ∉ name)
    (hrest : ∀ c ∈ rest.head?, c = '/') :
    formatFrom false (front ++ ':' :: name ++ rest) =
      front ++ '{' :: name ++ '}' :: formatFrom false rest := by
  obtain ⟨c, more, rfl⟩ := List.exists_cons_of_ne_nil hne
  have hopen : ((c :: more) ++ rest).head?.any (· != '/') := by
    simpa using fun hslash : c = '/' => hname (by simp [hslash])
  have hcolon : formatFrom false (':' :: (c :: more ++ rest)) =
      '{' :: (c :: more ++ '}' :: formatFrom false rest) := by
    rw [formatFrom, if_pos ⟨rfl, hopen⟩, formatFrom_true_append hname hrest]
  rw [List.append_assoc, List.cons_append, formatFrom_append hfront, hcolon, List.append_assoc]
  rfl

/-- Either no colon of a segment has a name behind it, or the first one has. -/
theorem plain_or_parameter (segment : List Char) :
    ':' ∉ segment.dropLast ∨
      ∃ front name, segment = front ++ ':' :: name ∧ ':' ∉ front ∧ name ≠ [] := by
  by_cases hcolon : ':' ∈ segment.dropLast
  · obtain ⟨front, more, hsplit, hfront⟩ := List.eq_append_cons_of_mem hcolon
    have hne : segment ≠ [] := by
      rintro rfl
      cases hcolon
    refine .inr ⟨front, more ++ [segment.getLast hne], ?_, hfront, by simp⟩
    rw [← List.cons_append, ← List.append_assoc, ← hsplit, List.dropLast_append_getLast]
  · exact .inl hcolon

theorem formatFrom_of_plain (hplain : ':' ∉ segment.dropLast) :
    formatFrom false segment = segment := by
  have hend : formatFrom false (segment ++ []) = segment ++ [] :=
    formatFrom_plain hplain (by simp)
  rwa [List.append_nil] at hend

theorem formatFrom_of_parameter (hfront : ':' ∉ front) (hne : name ≠ []) (hname : '/' ∉ name) :
    formatFrom false (front ++ ':' :: name) = front ++ '{' :: name ++ ['}'] := by
  have hend : formatFrom false (front ++ ':' :: name ++ []) = front ++ '{' :: name ++ ['}'] :=
    formatFrom_parameter hfront hne hname (by simp)
  rwa [List.append_nil] at hend

/-- A segment is formatted on its own. -/
theorem formatFrom_segment (hsegment : '/' ∉ segment) (hrest : ∀ c ∈ rest.head?, c = '/') :
    formatFrom false (segment ++ rest) = formatFrom false segment ++ formatFrom false rest := by
  rcases plain_or_parameter segment with hplain | ⟨front, name, rfl, hfront, hne⟩
  · rw [formatFrom_plain hplain hrest, formatFrom_of_plain hplain]
  · have hname : '/' ∉ name := fun hmem => hsegment (by simp [hmem])
    rw [formatFrom_parameter hfront hne hname hrest, formatFrom_of_parameter hfront hne hname,
      List.append_assoc _ ['}']]
    rfl

/-! ### Paths -/

/-- A path is formatted segment by segment. -/
theorem formatFrom_joinWith {segments : List (List Char)}
    (hsegments : ∀ segment ∈ segments, '/' ∉ segment) :
    formatFrom false (joinWith '/' segments) =
      joinWith '/' (segments.map (formatFrom false)) := by
  induction segments with
  | nil => rfl
  | cons segment segments ih =>
      rw [List.forall_mem_cons] at hsegments
      cases segments with
      | nil => rfl
      | cons second segments =>
          have hslash : ∀ rest, formatFrom false ('/' :: rest) = '/' :: formatFrom false rest :=
            fun rest => rfl
          rw [joinWith, formatFrom_segment hsegments.1 (by simp), hslash, ih hsegments.2]
          · rfl
          · simp

/-- A path is formatted segment by segment. -/
theorem toList_formatPath (path : String) :
    (formatPath path).toList =
      joinWith '/' ((splitOnChar '/' path.toList).map (formatFrom false)) := by
  have hsegments : ∀ segment ∈ splitOnChar '/' path.toList, '/' ∉ segment :=
    fun segment hsegment => (of_mem_splitOnChar hsegment).1
  rw [formatPath, String.toList_ofList, ← formatFrom_joinWith hsegments, joinWith_splitOnChar]

/-! ### Formatting twice -/

/-- A segment is left alone exactly if no colon stands before its end. -/
theorem formatFrom_eq_self_iff (hsegment : '/' ∉ segment) :
    formatFrom false segment = segment ↔ ':' ∉ segment.dropLast := by
  refine ⟨fun hself => ?_, formatFrom_of_plain⟩
  rcases plain_or_parameter segment with hplain | ⟨front, name, rfl, hfront, hne⟩
  · exact hplain
  · have hname : '/' ∉ name := fun hmem => hsegment (by simp [hmem])
    -- A pair of braces for a colon makes the segment longer.
    have hlength := congrArg List.length hself
    rw [formatFrom_of_parameter hfront hne hname] at hlength
    simp at hlength

/-- The name of a parameter stays as it is the second time if it has no colon. -/
theorem formatFrom_twice_iff (hsegment : '/' ∉ segment) :
    formatFrom false (formatFrom false segment) = formatFrom false segment ↔
      segment.count ':' ≤ 1 := by
  rcases plain_or_parameter segment with hplain | ⟨front, name, rfl, hfront, hne⟩
  · rw [formatFrom_of_plain hplain, formatFrom_of_plain hplain]
    apply iff_of_true rfl
    rcases List.eq_nil_or_concat' segment with rfl | ⟨front, last, rfl⟩
    · exact Nat.zero_le 1
    · rw [List.dropLast_concat] at hplain
      rw [List.count_append, List.count_eq_zero.mpr hplain, Nat.zero_add]
      exact List.count_le_length
  · have hname : '/' ∉ name := fun hmem => hsegment (by simp [hmem])
    have hcount : (front ++ ':' :: name).count ':' = name.count ':' + 1 := by
      rw [List.count_append, List.count_eq_zero.mpr hfront, List.count_cons_self, Nat.zero_add]
    rw [formatFrom_eq_self_iff (slash_notMem_formatFrom hsegment),
      formatFrom_of_parameter hfront hne hname, List.dropLast_concat, hcount]
    simp [hfront, List.count_eq_zero]

/-- Formatting a path twice is formatting it once exactly if no segment has two colons. -/
theorem formatPath_formatPath_iff (path : String) :
    formatPath (formatPath path) = formatPath path ↔
      ∀ segment ∈ splitOnChar '/' path.toList, segment.count ':' ≤ 1 := by
  have hsegments : ∀ segment ∈ splitOnChar '/' path.toList, '/' ∉ segment :=
    fun segment hsegment => (of_mem_splitOnChar hsegment).1
  generalize hsplit : splitOnChar '/' path.toList = segments at hsegments
  have hformatted : ∀ segment ∈ segments.map (formatFrom false), '/' ∉ segment :=
    List.forall_mem_map.mpr fun segment hsegment =>
      slash_notMem_formatFrom (hsegments segment hsegment)
  have htwice : ∀ segment ∈ (segments.map (formatFrom false)).map (formatFrom false),
      '/' ∉ segment :=
    List.forall_mem_map.mpr fun segment hsegment =>
      slash_notMem_formatFrom (hformatted segment hsegment)
  have hne : segments ≠ [] := hsplit ▸ splitOnChar_ne_nil '/' path.toList
  calc formatPath (formatPath path) = formatPath path
      ↔ joinWith '/' ((segments.map (formatFrom false)).map (formatFrom false)) =
          joinWith '/' (segments.map (formatFrom false)) := by
        rw [← String.toList_inj, toList_formatPath (formatPath path), toList_formatPath path,
          hsplit, splitOnChar_joinWith (by simpa using hne) hformatted]
    _ ↔ (segments.map (formatFrom false)).map (formatFrom false) =
          segments.map (formatFrom false) :=
        joinWith_inj (by simpa using hne) (by simpa using hne) htwice hformatted
    _ ↔ ∀ segment ∈ segments,
          formatFrom false (formatFrom false segment) = formatFrom false segment := by
        rw [List.map_map, List.map_inj_left]
        rfl
    _ ↔ ∀ segment ∈ segments, segment.count ':' ≤ 1 :=
        forall₂_congr fun segment hsegment => formatFrom_twice_iff (hsegments segment hsegment)

/-- A colon in the name of a parameter opens another name the second time. -/
theorem formatPath_twice_colons :
    formatPath (formatPath "/:a:b") ≠ formatPath "/:a:b" := by
  decide

end RouteScribe.Blueprint
