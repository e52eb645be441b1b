import FeatureLadder.Proofs.Pieces
import FeatureLadder.Proofs.Planning
import Mathlib.Data.List.DropRight

/-!
# The directory of a path

**Input**: any path, with repeated or trailing separators, with single dots anywhere, absolute
or not.

The directory is taken from the text of the path, which is cut into its start and its pieces:
pieces that mean nothing go from the end, then the last piece goes, then again pieces that mean
nothing.  What a path names is read off all of its pieces at once.  The two agree because the
pieces that are kept are the first ones:

* cutting the kept text again gives the same start and the kept pieces, so that a dot in front
  is not taken for something else and no root appears;
* dropping pieces that mean nothing changes no component.

**Results.**
* `components_eq`: the components of a path in terms of its cut.
* `cut_keep`: some of the first pieces are cut as they were in the whole path.
* `parentChars?_cases`: what the directory is, if there is one.
* `workingDir_components`: the directory of a manifest, as text and by its components, and
  the commands that run in it.
-/

namespace FeatureLadder

namespace Text

/-- Pieces that are put together in two parts. -/
theorem join_append
    (sep : List Char) :
    ∀ {ps qs : List (List Char)}, ps ≠ [] → qs ≠ [] →
      join sep (ps ++ qs) = join sep ps ++ sep ++ join sep qs
  | [], _, hp, _ => absurd rfl hp
  | [p], qs, _, hq => join_cons sep p hq
  | p :: q :: ps, qs, _, hq => by
      have ih := join_append sep (List.cons_ne_nil q ps) hq
      rw [List.cons_append, join_cons sep p (by simp), ih, join_cons sep p (by simp)]
      simp only [List.append_assoc]

/-- Pieces that were put together are found again. -/
theorem pieces_join
    {sep : Char}
    {ps : List (List Char)}
    (hne : ps ≠ [])
    (hsep : ∀ p ∈ ps, sep ∉ p) :
    pieces sep (join [sep] ps) = ps := by
  have hfront : ∀ p ∈ ps.dropLast, sep ∉ p := fun p hp => hsep p (List.dropLast_subset _ hp)
  have hlast : sep ∉ ps.getLast hne := hsep _ (List.getLast_mem hne)
  rw [join_eq_terminated_append sep hne, pieces_terminated_append sep _ hfront,
    pieces_of_not_mem hlast, List.dropLast_append_getLast]

end Text

namespace Path

/-- The component that the start of a path stands for. -/
def Cut.first (c : Cut) : List Component :=
  match c.start with
  | ['/'] => [.root]
  | ['.'] => [.here]
  | _ => []

/-- The components that pieces behind the start of a path stand for. -/
def names (ps : List (List Char)) : List Component :=
  (ps.filter (!isIdle ·)).map .name

/-- The first pieces of a path, with its start. -/
def Cut.keep (c : Cut) (kept : List (List Char)) : Cut :=
  { c with pieces := kept }

@[simp] theorem names_nil : names [] = [] := rfl

theorem names_cons
    (p : List Char)
    (ps : List (List Char)) :
    names (p :: ps) = (if isIdle p then [] else [.name p]) ++ names ps := by
  cases h : isIdle p <;> simp [names, h]

theorem names_append
    (ps qs : List (List Char)) :
    names (ps ++ qs) = names ps ++ names qs := by
  simp [names]

section Cutting

theorem cut_root
    (body : List Char) :
    cut ('/' :: body) = ⟨['/'], Text.pieces '/' body⟩ := rfl

/-- A dot that is the first piece becomes the start, and leaves an empty piece behind. -/
theorem cut_here
    {path : List Char}
    {ps : List (List Char)}
    (hps : Text.pieces '/' path = ['.'] :: ps) :
    cut path = ⟨['.'], [] :: ps⟩ := by
  have hpath : path = Text.join ['/'] (['.'] :: ps) := by
    rw [← hps, Text.join_pieces]
  cases ps with
  | nil =>
      rw [hpath]
      rfl
  | cons q qs =>
      rw [Text.join_cons _ _ (List.cons_ne_nil q qs)] at hpath
      have hbody : Text.pieces '/' (Text.join ['/'] (q :: qs)) = q :: qs := by
        simpa [hpath, Text.pieces] using hps
      rw [hpath, ← hbody]
      simp [cut, hbody]

/-- A path without a start of its own is cut into its pieces. -/
theorem cut_relative
    {path : List Char}
    (hroot : path.head? ≠ some '/')
    (hhere : (Text.pieces '/' path).head? ≠ some ['.']) :
    cut path = ⟨[], Text.pieces '/' path⟩ := by
  unfold cut
  split
  · simp at hroot
  · simp [Text.pieces] at hhere
  · simp [Text.pieces] at hhere
  · rfl

/-- A path has a root, or its first piece is a dot, or it has no start of its own. -/
theorem cut_cases
    (path : List Char) :
    (∃ body, path = '/' :: body ∧ cut path = ⟨['/'], Text.pieces '/' body⟩) ∨
    (∃ ps, Text.pieces '/' path = ['.'] :: ps ∧ path.head? ≠ some '/' ∧
      cut path = ⟨['.'], [] :: ps⟩) ∨
    (path.head? ≠ some '/' ∧ (Text.pieces '/' path).head? ≠ some ['.'] ∧
      cut path = ⟨[], Text.pieces '/' path⟩) := by
  by_cases hroot : path.head? = some '/'
  · obtain ⟨body, rfl⟩ := List.head?_eq_some_iff.mp hroot
    exact .inl ⟨body, rfl, cut_root body⟩
  · by_cases hhere : (Text.pieces '/' path).head? = some ['.']
    · obtain ⟨ps, hps⟩ := List.head?_eq_some_iff.mp hhere
      exact .inr (.inl ⟨ps, hps, hroot, cut_here hps⟩)
    · exact .inr (.inr ⟨hroot, hhere, cut_relative hroot hhere⟩)

/-- **The components of a path**: what its start stands for, and the pieces behind it. -/
theorem components_eq
    (path : List Char) :
    components path = (cut path).first ++ names (cut path).pieces := by
  rcases cut_cases path with ⟨body, rfl, hcut⟩ | ⟨ps, hps, hroot, hcut⟩ | ⟨hroot, hhere, hcut⟩
  · simp [components, hcut, Cut.first, names, Text.pieces, isIdle]
  · simp [components, hcut, Cut.first, names, hps, hroot, isIdle]
  · simp [components, hcut, Cut.first, names, hroot, hhere]

/-- What is kept of a path is followed by a slash, unless it is all. -/
theorem text_keep_cases
    {c : Cut}
    {kept more : List (List Char)}
    (hpieces : c.pieces = kept ++ more)
    (hne : kept ≠ []) :
    c.text = (c.keep kept).text ∨ ∃ rest, c.text = (c.keep kept).text ++ '/' :: rest := by
  unfold Cut.keep Cut.text
  rw [hpieces]
  by_cases hmore : more = []
  · left
    rw [hmore, List.append_nil]
  · right
    refine ⟨Text.join ['/'] more, ?_⟩
    rw [Text.join_append _ hne hmore]
    simp

theorem slash_not_mem_cut
    (path : List Char) :
    ∀ p ∈ (cut path).pieces, '/' ∉ p := by
  rcases cut_cases path with ⟨body, rfl, hcut⟩ | ⟨ps, hps, -, hcut⟩ | ⟨-, -, hcut⟩
  · rw [hcut]
    exact Text.sep_not_mem_of_mem_pieces '/' body
  · have hsep := Text.sep_not_mem_of_mem_pieces '/' path
    rw [hps] at hsep
    rw [hcut]
    simpa using fun p hp => hsep p (List.mem_cons_of_mem _ hp)
  · rw [hcut]
    exact Text.sep_not_mem_of_mem_pieces '/' path

/-- **The first pieces of a path are cut as they were in the whole.** -/
theorem cut_keep
    {path : List Char}
    {kept more : List (List Char)}
    (hpieces : (cut path).pieces = kept ++ more)
    (hne : kept ≠ []) :
    cut ((cut path).keep kept).text = (cut path).keep kept := by
  have hsep : ∀ p ∈ kept, '/' ∉ p := by
    intro p hp
    apply slash_not_mem_cut path
    rw [hpieces]
    exact List.mem_append_left _ hp
  have hkept : Text.pieces '/' (Text.join ['/'] kept) = kept := Text.pieces_join hne hsep
  rcases cut_cases path with ⟨body, -, hcut⟩ | ⟨ps, -, -, hcut⟩ | ⟨hroot, hhere, hcut⟩
  · simp [hcut, Cut.keep, Cut.text, cut_root, hkept]
  · obtain ⟨q, qs, rfl⟩ := List.exists_cons_of_ne_nil hne
    obtain ⟨rfl, -⟩ : [] = q ∧ ps = qs ++ more := by
      simpa [hcut] using hpieces
    have htext : ((cut path).keep ([] :: qs)).text = Text.join ['/'] (['.'] :: qs) := by
      cases qs <;> simp [hcut, Cut.keep, Cut.text, Text.join]
    have hagain : Text.pieces '/' (Text.join ['/'] (['.'] :: qs)) = ['.'] :: qs := by
      apply Text.pieces_join (by simp)
      simpa using fun p hp => hsep p (List.mem_cons_of_mem _ hp)
    rw [htext, cut_here hagain, hcut]
    rfl
  · have htext : ((cut path).keep kept).text = Text.join ['/'] kept := by
      simp [hcut, Cut.keep, Cut.text]
    rw [htext, cut_relative, hkept, hcut]
    · rfl
    · intro hslash
      obtain ⟨body, hbody⟩ := List.head?_eq_some_iff.mp hslash
      rcases text_keep_cases hpieces hne with hall | ⟨rest, hall⟩
      · rw [text_cut, htext, hbody] at hall
        simp [hall] at hroot
      · rw [text_cut, htext, hbody] at hall
        simp [hall] at hroot
    · obtain ⟨q, qs, rfl⟩ := List.exists_cons_of_ne_nil hne
      have hfirst : Text.pieces '/' path = q :: (qs ++ more) := by
        simpa [hcut] using hpieces
      simpa [hkept, hfirst] using hhere

/-- The components of what is kept of a path. -/
theorem components_keep
    {path : List Char}
    {kept more : List (List Char)}
    (hpieces : (cut path).pieces = kept ++ more) :
    components ((cut path).keep kept).text = (cut path).first ++ names kept := by
  by_cases hne : kept = []
  · subst hne
    rcases cut_cases path with ⟨body, -, hcut⟩ | ⟨ps, -, -, hcut⟩ | ⟨-, -, hcut⟩
    · rw [hcut]
      rfl
    · rw [hcut]
      rfl
    · rw [hcut]
      rfl
  · rw [components_eq, cut_keep hpieces hne]
    rfl

end Cutting

section Parent

/-- Pieces at the end that mean nothing stand for no component. -/
theorem names_rdropWhile
    (ps : List (List Char)) :
    names (ps.rdropWhile isIdle) = names ps := by
  induction ps using List.reverseRecOn with
  | nil => simp
  | append_singleton ps p ih =>
      by_cases hp : isIdle p = true
      · rw [List.rdropWhile_concat_pos _ _ _ hp, ih, names_append, names_cons]
        simp [hp]
      · rw [List.rdropWhile_concat_neg _ _ _ hp]

/-- Without such pieces at the end, nothing is left only if no component is. -/
theorem rdropWhile_eq_nil_of_names
    {ps : List (List Char)}
    (h : names (ps.rdropWhile isIdle) = []) :
    ps.rdropWhile isIdle = [] := by
  by_contra hne
  have hlast := List.rdropWhile_last_not isIdle ps hne
  rw [← List.dropLast_append_getLast hne, names_append, names_cons] at h
  simp [hlast] at h

/-- The directory of a path is the text of its first pieces, up to the last component, unless
that text is empty. -/
theorem parentChars?_cases
    (path : List Char) :
    (names (cut path).pieces = [] ∧ parentChars? path = none) ∨
    (∃ kept more last,
      (cut path).pieces = kept ++ more ∧
      names (cut path).pieces = names kept ++ [.name last] ∧
      (names kept = [] → kept = []) ∧
      (((cut path).keep kept).text = [] → parentChars? path = none) ∧
      (((cut path).keep kept).text ≠ [] →
        parentChars? path = some ((cut path).keep kept).text)) := by
  have htrimmed := names_rdropWhile (cut path).pieces
  have hbegins := List.rdropWhile_prefix isIdle (cut path).pieces
  cases hdrop : (cut path).pieces.reverse.dropWhile isIdle with
  | nil =>
      left
      refine ⟨?_, by simp [parentChars?, hdrop]⟩
      rw [← htrimmed, List.rdropWhile, hdrop]
      rfl
  | cons last before =>
      right
      have hend : (cut path).pieces.rdropWhile isIdle = before.reverse ++ [last] := by
        simp [List.rdropWhile, hdrop]
      have hlast : isIdle last = false := by
        have h := List.rdropWhile_last_not isIdle (cut path).pieces (by simp [hend])
        simpa [hend] using h
      have hkept : (before.dropWhile isIdle).reverse = before.reverse.rdropWhile isIdle := by
        simp [List.rdropWhile]
      have hfront : before.reverse.rdropWhile isIdle <+: before.reverse :=
        List.rdropWhile_prefix isIdle before.reverse
      obtain ⟨more, hmore⟩ :=
        (hfront.trans (List.prefix_append _ [last])).trans (hend ▸ hbegins)
      refine
        ⟨before.reverse.rdropWhile isIdle, more, last, hmore.symm, ?_,
          rdropWhile_eq_nil_of_names, ?_, ?_⟩
      · rw [← htrimmed, hend, names_append, names_rdropWhile, names_cons]
        simp [hlast]
      · intro htext
        simpa [parentChars?, hdrop, hkept, Cut.keep] using htext
      · intro htext
        simpa [parentChars?, hdrop, hkept, Cut.keep] using htext

theorem Cut.first_cut_eq_nil_iff
    (path : List Char) :
    (cut path).first = [] ↔ (cut path).start = [] := by
  rcases cut_cases path with ⟨body, -, hcut⟩ | ⟨ps, -, -, hcut⟩ | ⟨-, -, hcut⟩
  · simp [hcut, Cut.first]
  · simp [hcut, Cut.first]
  · simp [hcut, Cut.first]

/-- What is kept of a path is empty exactly if it stands for no component. -/
theorem text_keep_eq_nil_iff
    {path : List Char}
    {kept more : List (List Char)}
    (hpieces : (cut path).pieces = kept ++ more)
    (hkept : names kept = [] → kept = []) :
    ((cut path).keep kept).text = [] ↔ (cut path).first ++ names kept = [] := by
  constructor
  · intro htext
    rw [← components_keep hpieces, htext]
    rfl
  · intro hnone
    obtain ⟨hfirst, hnames⟩ := List.append_eq_nil_iff.mp hnone
    have hstart : (cut path).start = [] := (Cut.first_cut_eq_nil_iff path).mp hfirst
    simp [Cut.keep, Cut.text, hstart, hkept hnames, Text.join]

theorem text_keep_prefix
    {c : Cut}
    {kept more : List (List Char)}
    (hpieces : c.pieces = kept ++ more) :
    (c.keep kept).text <+: c.text := by
  by_cases hne : kept = []
  · simp [hne, Cut.keep, Cut.text, Text.join]
  · rcases text_keep_cases hpieces hne with hall | ⟨rest, hall⟩
    · exact hall ▸ List.prefix_rfl
    · exact hall ▸ List.prefix_append _ _

/-- **The directory of a path**: there is one exactly if the path has two components or more,
and it is the part of the path in front that has all of them but the last. -/
theorem parentChars?_components
    (path : List Char) :
    ((parentChars? path).isSome = true ↔ 2 ≤ (components path).length) ∧
    ∀ dir, parentChars? path = some dir →
      dir ≠ [] ∧ dir <+: path ∧ components dir = (components path).dropLast := by
  rcases parentChars?_cases path with ⟨hnames, hnone⟩ |
    ⟨kept, more, last, hpieces, hnames, hkept, hnone, hsome⟩
  · have hfirst : (cut path).first.length ≤ 1 := by
      unfold Cut.first
      split <;> simp
    have hcount : ¬ 2 ≤ (components path).length := by
      rw [components_eq, hnames, List.append_nil]
      omega
    simp [hnone, hcount]
  · have hpath : components path = components ((cut path).keep kept).text ++ [.name last] := by
      rw [components_eq path, hnames, ← List.append_assoc, components_keep hpieces]
    have hempty := text_keep_eq_nil_iff hpieces hkept
    rw [← components_keep hpieces] at hempty
    rw [hpath, List.dropLast_concat, List.length_append]
    by_cases htext : ((cut path).keep kept).text = []
    · rw [hempty.mp htext]
      simp [hnone htext]
    · have hone : 1 ≤ (components ((cut path).keep kept).text).length :=
        List.length_pos_iff.mpr (mt hempty.mpr htext)
      have hbegins : ((cut path).keep kept).text <+: path := by
        simpa [text_cut] using text_keep_prefix hpieces
      simp [hsome htext, htext, hone, hbegins]

end Parent

end Path

/-- **The directory of a manifest.**  There is one if and only if the path of the manifest has
at least two components.  It is then a part of the path in front, not empty and not all of it,
and has the components of the path without the last one.  The command of every plan that is
made for the manifest runs in it. -/
theorem Options.workingDir_components
    (o : Options) :
    (o.workingDir.isSome = true ↔ 2 ≤ (Path.components o.manifestPath.toList).length) ∧
    (∀ dir, o.workingDir = some dir →
      dir ≠ "" ∧ dir.toList <+: o.manifestPath.toList ∧ dir ≠ o.manifestPath ∧
      Path.components dir.toList = (Path.components o.manifestPath.toList).dropLast) ∧
    ∀ file target plan, Plan.make file target o = .ok plan →
      plan.command.workingDir = o.workingDir := by
  obtain ⟨hsome, hparent⟩ := Path.parentChars?_components o.manifestPath.toList
  have hiff : o.workingDir.isSome = true ↔ 2 ≤ (Path.components o.manifestPath.toList).length := by
    simpa [workingDir, Path.parent?] using hsome
  refine ⟨hiff, ?_, fun file _ plan hmake => by rw [Plan.command_of_make file o hmake]⟩
  intro dir hdir
  have hcount := hiff.mp (Option.isSome_of_eq_some hdir)
  obtain ⟨chars, hchars, rfl⟩ := Option.map_eq_some_iff.mp hdir
  obtain ⟨hne, hbegins, hcomponents⟩ := hparent chars hchars
  rw [String.toList_ofList]
  refine ⟨?_, hbegins, ?_, hcomponents⟩
  · simpa using hne
  · intro hall
    rw [← hall, String.toList_ofList] at hcount hcomponents
    have hlength := congrArg List.length hcomponents
    rw [List.length_dropLast] at hlength
    omega

/-- A leading dot, a repeated separator, two dots as a name, and a separator and a dot at the
end; and the plan for a manifest that is found there. -/
theorem Options.workingDir_components_dotted :
    ∃ (o : Options) (dir : String) (file : String → Except Failure String) (plan : Plan),
      o.manifestPath = "./a//b/.././" ∧ o.workingDir = some dir ∧ dir ≠ "" ∧
      dir.toList <+: "./a//b/.././".toList ∧ dir ≠ "./a//b/.././" ∧
      Path.components dir.toList = [.here, .name ['a'], .name ['b']] ∧
      Plan.make file "v0-1" o = .ok plan ∧ plan.command.workingDir = some dir := by
  let o : Options := { manifestPath := "./a//b/.././" }
  let file : String → Except Failure String := fun _ => .ok "[features]\nv0-1 = []\n"
  let v : Version := (Version.ofChars? ['v', '0', '-', '1']).get rfl
  let plan : Plan := Plan.forTarget o v "[features]\nv0-1 = []\n"
  have hmake : Plan.make file "v0-1" o = .ok plan := by decide +kernel
  obtain ⟨hiff, hdir, hruns⟩ := workingDir_components o
  obtain ⟨dir, hsome⟩ := Option.isSome_iff_exists.mp (hiff.mpr (by decide +kernel))
  obtain ⟨hne, hbegins, hproper, hcomponents⟩ := hdir dir hsome
  have hlast :
      (Path.components o.manifestPath.toList).dropLast = [.here, .name ['a'], .name ['b']] := by
    decide +kernel
  exact
    ⟨o, dir, file, plan, rfl, hsome, hne, hbegins, hproper, hcomponents.trans hlast, hmake,
      (hruns file "v0-1" plan hmake).trans hsome⟩

/-- The text is kept as it was written, but for separators and dots at its end. -/
example :
    Path.parent? "/a//./b/c" = some "/a//./b" ∧ Path.parent? "//a/." = some "/" ∧
      Path.parent? "././x" = some "." ∧ Path.parent? "a/." = none := by
  decide +kernel

end FeatureLadder
