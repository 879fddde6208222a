import Mathlib.Data.List.Basic
import RouteScribe.Proofs.Blueprint.Segments

/-!
# Joined paths

The path of a router and the path of a route are joined to a path in canonical form.  It is
rooted if the first part is empty or starts with a slash.  Its segments are what is left of
the segments of both parts, and a slash at the end is kept.
-/

namespace RouteScribe.Blueprint

open RouteScribe.Text Relation

/-! ### Written paths -/

/-- The segments of a relative path: a dot stands for none. -/
def orDot (segments : List (List Char)) : List (List Char) :=
  if segments = [] then [['.']] else segments

/-- The text of a path with the given segments. -/
def writtenPath (rooted : Bool) (segments : List (List Char)) : List Char :=
  if rooted then '/' :: joinWith '/' segments else joinWith '/' (orDot segments)

/-- Puts a slash at the end of a path if it is to have one, but not after the root. -/
def closed (slash : Bool) (text : List Char) : List Char :=
  if slash ∧ text ≠ ['/'] then text ++ ['/'] else text

/-- Segments as they stand between slashes. -/
def Proper (segments : List (List Char)) : Prop :=
  ∀ segment ∈ segments, segment ≠ [] ∧ '/' ∉ segment

variable {rooted slash : Bool} {segments : List (List Char)} {text leading path : List Char}

theorem proper_orDot (hsegments : Proper segments) : Proper (orDot segments) := by
  unfold orDot
  split
  · exact List.forall_mem_singleton.mpr (by decide)
  · exact hsegments

theorem orDot_ne_nil (segments : List (List Char)) : orDot segments ≠ [] := by
  unfold orDot
  split
  · simp
  · assumption

theorem Proper.joinWith_ne_nil (hsegments : Proper segments) (hne : segments ≠ []) :
    joinWith '/' segments ≠ [] := by
  intro hempty
  have hsplit := splitOnChar_joinWith hne fun segment hsegment => (hsegments segment hsegment).2
  rw [hempty] at hsplit
  obtain ⟨hfirst, -⟩ := hsegments [] (by simp [← hsplit, splitOnChar])
  exact hfirst rfl

theorem Proper.dot_or_joinWith (hsegments : Proper segments) :
    (if (joinWith '/' segments).isEmpty then ['.'] else joinWith '/' segments) =
      joinWith '/' (orDot segments) := by
  by_cases hempty : segments = []
  · rw [hempty]
    rfl
  · have hjoined : (joinWith '/' segments).isEmpty = false := by
      simpa using hsegments.joinWith_ne_nil hempty
    rw [hjoined, orDot, if_neg hempty]
    rfl

/-- A text whose last piece is not empty does not end with the separator. -/
theorem getLast?_ne_slash (hpieces : (splitOnChar '/' text).getLast? ≠ some []) :
    text.getLast? ≠ some '/' := by
  intro hlast
  obtain ⟨front, rfl⟩ := List.getLast?_eq_some_iff.mp hlast
  rw [splitOnChar_append] at hpieces
  simp [splitOnChar] at hpieces

theorem Proper.getLast?_ne (hsegments : Proper segments) : segments.getLast? ≠ some [] :=
  fun hlast => (hsegments [] (List.mem_of_getLast? hlast)).1 rfl

theorem splitOnChar_relative (hsegments : Proper segments) :
    splitOnChar '/' (writtenPath false segments) = orDot segments :=
  splitOnChar_joinWith (orDot_ne_nil segments) fun segment hsegment =>
    (proper_orDot hsegments segment hsegment).2

theorem splitOnChar_rooted (hsegments : Proper segments) (hne : segments ≠ []) :
    splitOnChar '/' (writtenPath true segments) = [] :: segments := by
  have hsplit := splitOnChar_joinWith hne fun segment hsegment => (hsegments segment hsegment).2
  simp [writtenPath, splitOnChar, hsplit]

/-- A written path starts with a slash exactly if it is rooted. -/
theorem head?_writtenPath (hsegments : Proper segments) :
    (writtenPath rooted segments).head? = some '/' ↔ rooted := by
  cases rooted with
  | true => simp [writtenPath]
  | false =>
      simp only [Bool.false_eq_true, iff_false]
      intro hhead
      obtain ⟨rest, hrest⟩ := List.head?_eq_some_iff.mp hhead
      have hsplit := splitOnChar_relative hsegments
      -- The first piece would be empty, but all segments have characters.
      rw [hrest, splitOnChar, if_pos rfl] at hsplit
      exact (proper_orDot hsegments [] (hsplit ▸ List.mem_cons_self)).1 rfl

/-- The root is the only path that is written as a single slash. -/
theorem writtenPath_eq_root_iff (hsegments : Proper segments) :
    writtenPath rooted segments = ['/'] ↔ rooted ∧ segments = [] := by
  constructor
  · intro hroot
    have hrooted : rooted := by
      rw [← head?_writtenPath hsegments, hroot]
      rfl
    subst hrooted
    refine ⟨rfl, ?_⟩
    by_contra hne
    exact hsegments.joinWith_ne_nil hne (List.cons.inj hroot).2
  · rintro ⟨rfl, rfl⟩
    rfl

/-- The root is the only written path that ends with a slash. -/
theorem getLast?_writtenPath (hsegments : Proper segments)
    (hroot : writtenPath rooted segments ≠ ['/']) :
    (writtenPath rooted segments).getLast? ≠ some '/' := by
  apply getLast?_ne_slash
  cases rooted with
  | true =>
      have hne : segments ≠ [] := by
        rintro rfl
        exact hroot rfl
      rw [splitOnChar_rooted hsegments hne, List.getLast?_cons_of_ne_nil hne]
      exact hsegments.getLast?_ne
  | false =>
      rw [splitOnChar_relative hsegments]
      exact (proper_orDot hsegments).getLast?_ne

/-! ### Slashes at the end -/

theorem getLast?_closed (htext : text ≠ ['/'] → text.getLast? ≠ some '/') :
    (closed slash text).getLast? = some '/' ↔ closed slash text = ['/'] ∨ slash := by
  by_cases hroot : text = ['/']
  · subst hroot
    simp [closed]
  · cases slash with
    | true => simp [closed, hroot]
    | false => simpa [closed, hroot] using htext hroot

/-- Closing a path is closing it as it has been closed. -/
theorem closed_closed (htext : text ≠ ['/'] → text.getLast? ≠ some '/') :
    closed (decide ((closed slash text).getLast? = some '/')) text = closed slash text := by
  by_cases hroot : text = ['/']
  · subst hroot
    simp [closed]
  · cases slash with
    | true => simp [closed, hroot]
    | false => simp [closed, hroot, htext hroot]

/-- The empty segment after a slash at the end. -/
def afterSlash (text : List Char) : List (List Char) :=
  if text.getLast? = some '/' then [[]] else []

theorem splitOnChar_closed (hroot : text ≠ ['/']) (htext : text.getLast? ≠ some '/') :
    splitOnChar '/' (closed slash text) =
      splitOnChar '/' text ++ afterSlash (closed slash text) := by
  cases slash with
  | true => simp [closed, hroot, afterSlash, splitOnChar_append, splitOnChar]
  | false => simp [closed, afterSlash, htext]

/-- The pieces of a path are its segments, with an empty one in front of a rooted path and
another one after a slash at the end. -/
theorem segments_of_rooted (hsegments : Proper segments) :
    splitOnChar '/' (closed slash (writtenPath true segments)) =
      [] :: segments ++ afterSlash (closed slash (writtenPath true segments)) := by
  by_cases hne : segments = []
  · subst hne
    simp [closed, writtenPath, joinWith, afterSlash, splitOnChar]
  · have hroot : writtenPath true segments ≠ ['/'] := fun hroot =>
      hne ((writtenPath_eq_root_iff hsegments).mp hroot).2
    rw [splitOnChar_closed hroot (getLast?_writtenPath hsegments hroot),
      splitOnChar_rooted hsegments hne]

theorem segments_of_relative (hsegments : Proper segments) :
    splitOnChar '/' (closed slash (writtenPath false segments)) =
      orDot segments ++ afterSlash (closed slash (writtenPath false segments)) := by
  have hroot : writtenPath false segments ≠ ['/'] := by
    rw [ne_eq, writtenPath_eq_root_iff hsegments]
    simp
  rw [splitOnChar_closed hroot (getLast?_writtenPath hsegments hroot),
    splitOnChar_relative hsegments]

/-- A closing slash does not change whether a path is rooted. -/
theorem head?_closed (hsegments : Proper segments) :
    (closed slash (writtenPath rooted segments)).head? = some '/' ↔ rooted := by
  rw [← head?_writtenPath hsegments]
  unfold closed
  split
  · have hne : writtenPath rooted segments ≠ [] := by
      cases rooted with
      | true => simp [writtenPath]
      | false => exact (proper_orDot hsegments).joinWith_ne_nil (orDot_ne_nil segments)
    obtain ⟨c, rest, hcons⟩ := List.exists_cons_of_ne_nil hne
    rw [hcons]
    rfl
  · rfl

/-! ### The joined text -/

theorem proper_resolveSegments (hsegments : ∀ segment ∈ segments, '/' ∉ segment) :
    Proper (resolveSegments rooted segments) := by
  obtain ⟨hsteps, hfinal⟩ := isResolved_iff.mpr (rfl : resolveSegments rooted segments = _)
  intro segment hsegment
  refine ⟨?_, hsegments segment (subset_of_resolves hsteps hsegment)⟩
  rintro rfl
  obtain ⟨front, back, hsplit⟩ := List.append_of_mem hsegment
  rw [hsplit] at hfinal
  exact hfinal _ (.empty front back)

theorem slash_notMem_segments (leading path : List Char) :
    ∀ segment ∈ splitOnChar '/' leading ++ splitOnChar '/' path, '/' ∉ segment := by
  intro segment hsegment
  rcases List.mem_append.mp hsegment with hleading | hpath
  · exact (of_mem_splitOnChar hleading).1
  · exact (of_mem_splitOnChar hpath).1

theorem normalPath_eq (text : List Char) :
    normalPath text = writtenPath (text.head? = some '/')
      (resolveSegments (text.head? = some '/') (splitOnChar '/' text)) := by
  have hproper : Proper (resolveSegments (text.head? = some '/') (splitOnChar '/' text)) :=
    proper_resolveSegments fun segment hsegment => (of_mem_splitOnChar hsegment).1
  simp only [normalPath, normalSegments_eq, writtenPath, decide_eq_true_eq]
  split
  · rfl
  · exact hproper.dot_or_joinWith

/-- The joined path is the written form of what is left of the segments of both parts. -/
theorem joinChars_eq (leading path : List Char) :
    joinChars leading path =
      closed (path = [] ∨ path.getLast? = some '/')
        (writtenPath (leading = [] ∨ leading.head? = some '/')
          (resolveSegments (leading = [] ∨ leading.head? = some '/')
            (splitOnChar '/' leading ++ splitOnChar '/' path))) := by
  have hhead : (leading ++ '/' :: path).head? = some '/' ↔
      leading = [] ∨ leading.head? = some '/' := by
    cases leading with
    | nil => simp
    | cons c leading => simp
  have hlast : (leading ++ '/' :: path).getLast? = some '/' ↔
      path = [] ∨ path.getLast? = some '/' := by
    cases path with
    | nil => simp
    | cons c path => simp [List.getLast?_append, List.getLast?_cons]
  rw [joinChars]
  simp only [normalPath_eq, splitOnChar_append, hhead, hlast, closed, decide_eq_true_eq]

/-- A rooted path in canonical form is joined to nothing as it is. -/
theorem joinChars_nil (hsegments : Proper segments)
    (hresolved : resolveSegments true segments = segments) :
    joinChars [] (closed slash (writtenPath true segments)) =
      closed slash (writtenPath true segments) := by
  have hlast : writtenPath true segments ≠ ['/'] →
      (writtenPath true segments).getLast? ≠ some '/' := getLast?_writtenPath hsegments
  have hpieces : resolveSegments true
      (splitOnChar '/' [] ++ splitOnChar '/' (closed slash (writtenPath true segments))) =
        segments := by
    rw [segments_of_rooted hsegments]
    generalize closed slash (writtenPath true segments) = text
    calc resolveSegments true ([] :: [] :: (segments ++ afterSlash text))
        = resolveSegments true ([] :: (segments ++ afterSlash text)) :=
          (Resolves.empty [] _).resolveSegments_eq
      _ = resolveSegments true (segments ++ afterSlash text) :=
          (Resolves.empty [] _).resolveSegments_eq
      _ = resolveSegments true (segments ++ []) := by
          unfold afterSlash
          split
          · exact (Resolves.empty segments []).resolveSegments_eq
          · rfl
      _ = segments := by rw [List.append_nil, hresolved]
  have hne : closed slash (writtenPath true segments) ≠ [] := by
    intro hempty
    have hhead : (closed slash (writtenPath true segments)).head? = some '/' :=
      (head?_closed hsegments).mpr rfl
    rw [hempty] at hhead
    cases hhead
  rw [joinChars_eq]
  simp only [true_or, decide_true, hpieces, hne, false_or]
  exact closed_closed hlast

/-! ### Canonical paths -/

/-- A path that is empty or starts at the root. -/
def IsRooted (path : String) : Prop :=
  path = "" ∨ path.toList.head? = some '/'

/-- A path with a slash at its end. -/
def HasFinalSlash (path : String) : Prop :=
  path.toList.getLast? = some '/'

instance (path : String) : Decidable (IsRooted path) :=
  inferInstanceAs (Decidable (_ ∨ _))

instance (path : String) : Decidable (HasFinalSlash path) :=
  inferInstanceAs (Decidable (_ = _))

/-- What stands between the slashes of a path. -/
def segmentsOf (path : String) : List (List Char) :=
  splitOnChar '/' path.toList

/-- A rooted path in canonical form, to which segments come down: they end in its names and in
nothing else. -/
structure RootedForm (segments : List (List Char)) (path : String) : Prop where
  starts : path.toList.head? = some '/'
  resolves : ∃ names, (∀ name ∈ names, IsName name) ∧
    segmentsOf path = [] :: names ++ afterSlash path.toList ∧
    ∀ resolved, IsResolved true segments resolved ↔ resolved = names
  stable : joinPath "" path = path

/-- A relative path in canonical form, to which segments come down: it may go up at its start,
and a dot stands for no segments at all. -/
structure RelativeForm (segments : List (List Char)) (path : String) : Prop where
  starts : path.toList.head? ≠ some '/'
  resolves : ∃ ups names, (∀ name ∈ names, IsName name) ∧
    segmentsOf path = orDot (List.replicate ups ['.', '.'] ++ names) ++ afterSlash path.toList ∧
    ∀ resolved, IsResolved false segments resolved ↔
      resolved = List.replicate ups ['.', '.'] ++ names

section Join

variable (leading path : String)

theorem toList_joinPath :
    (joinPath leading path).toList =
      closed (path = "" ∨ HasFinalSlash path)
        (writtenPath (IsRooted leading)
          (resolveSegments (IsRooted leading) (segmentsOf leading ++ segmentsOf path))) := by
  rw [joinPath, String.toList_ofList, joinChars_eq]
  simp only [String.toList_eq_nil_iff]
  rfl

theorem proper_joined (rooted : Bool) :
    Proper (resolveSegments rooted (segmentsOf leading ++ segmentsOf path)) :=
  proper_resolveSegments (slash_notMem_segments leading.toList path.toList)

theorem hasFinalSlash_joinPath :
    HasFinalSlash (joinPath leading path) ↔
      joinPath leading path = "/" ∨ path = "" ∨ HasFinalSlash path := by
  have hroot : joinPath leading path = "/" ↔ (joinPath leading path).toList = ['/'] :=
    String.toList_inj.symm
  rw [hroot, HasFinalSlash, toList_joinPath,
    getLast?_closed (getLast?_writtenPath (proper_joined leading path _)), decide_eq_true_eq]

variable {leading}

/-- Behind a rooted front the joined path has the rooted form of all segments. -/
theorem rootedForm_joinPath (hrooted : IsRooted leading) :
    RootedForm (segmentsOf leading ++ segmentsOf path) (joinPath leading path) := by
  have hproper := proper_joined leading path true
  have htext := toList_joinPath leading path
  rw [decide_eq_true hrooted] at htext
  obtain ⟨ups, names, hnames, hname, hups⟩ :=
    resolveSegments_eq_ups_names true (segmentsOf leading ++ segmentsOf path)
  rw [hups rfl, List.replicate_zero, List.nil_append] at hnames
  refine ⟨?_, ⟨names, hname, ?_, ?_⟩, ?_⟩
  · rw [htext, head?_closed hproper]
  · rw [segmentsOf, htext, segments_of_rooted hproper, hnames]
  · intro resolved
    rw [isResolved_iff, hnames]
  · rw [joinPath, ← String.toList_inj, String.toList_ofList, htext]
    exact joinChars_nil hproper
      (resolveSegments_eq_of_resolves (resolves_resolveSegments _)).symm

/-- Behind a front that is not rooted the joined path has the relative form. -/
theorem relativeForm_joinPath (hrelative : ¬ IsRooted leading) :
    RelativeForm (segmentsOf leading ++ segmentsOf path) (joinPath leading path) := by
  have hproper := proper_joined leading path false
  have htext := toList_joinPath leading path
  rw [decide_eq_false hrelative] at htext
  obtain ⟨ups, names, hnames, hname, -⟩ :=
    resolveSegments_eq_ups_names false (segmentsOf leading ++ segmentsOf path)
  refine ⟨?_, ups, names, hname, ?_, ?_⟩
  · rw [htext, ne_eq, head?_closed hproper]
    simp
  · rw [segmentsOf, htext, segments_of_relative hproper, hnames]
  · intro resolved
    rw [isResolved_iff, hnames]

end Join

/-- Two parts are joined to a path in canonical form.  It ends with a slash exactly if it is
the root or the second part is empty or ends with one. -/
theorem joinPath_canonical (leading path : String) :
    (HasFinalSlash (joinPath leading path) ↔
      joinPath leading path = "/" ∨ path = "" ∨ HasFinalSlash path) ∧
    (IsRooted leading → RootedForm (segmentsOf leading ++ segmentsOf path)
      (joinPath leading path)) ∧
    (¬ IsRooted leading → RelativeForm (segmentsOf leading ++ segmentsOf path)
      (joinPath leading path)) :=
  ⟨hasFinalSlash_joinPath leading path, rootedForm_joinPath path, relativeForm_joinPath path⟩

theorem joinPath_canonical_sample :
    RootedForm (segmentsOf "/api/" ++ segmentsOf "../v2//./items/") "/v2/items/" ∧
      RelativeForm (segmentsOf "docs" ++ segmentsOf "../../img") "../img" := by
  have hrooted : joinPath "/api/" "../v2//./items/" = "/v2/items/" := by decide
  have hrelative : joinPath "docs" "../../img" = "../img" := by decide
  constructor
  · rw [← hrooted]
    exact (joinPath_canonical "/api/" "../v2//./items/").2.1 (by decide)
  · rw [← hrelative]
    exact (joinPath_canonical "docs" "../../img").2.2 (by decide)

end RouteScribe.Blueprint
