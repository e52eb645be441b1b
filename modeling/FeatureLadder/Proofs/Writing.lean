import FeatureLadder.Proofs.LineReading
import FeatureLadder.Proofs.Planning

/-!
# Scanning undoes writing

A manifest is written in four parts:

* leading text, in whole lines none of which holds the marker of the section;
* one line that holds the marker;
* one line for each declared name: the name, blanks, and possibly an equals sign with any
  text behind it;
* a line that is no version name, and then anything; or nothing at all, and then the last
  line may lack its line feed.

A name can be declared if it is a version name that holds neither an equals sign nor a line
feed and does not end in a blank.  What scanning returns are names of this kind, and it
returns exactly the names that were written.

**Results.**
* `Declaration.declaredName_line`: the name of a declaration is found in its line again.
* `Document.namesIn_text`: the names of a document are found in its text again.
* `declarable_scanned`: only names that can be declared are ever scanned.
* `scan_inverts_writing`: the two directions together.
-/

namespace FeatureLadder

namespace Manifest

/-- A name that a manifest can declare. -/
structure Declarable (name : List Char) : Prop where
  isName : Version.isName name = true
  no_equals : '=' ∉ name
  no_lf : '\n' ∉ name
  no_blank_end : ∀ c ∈ name.getLast?, Text.isBlank c = false

/-- A line that declares a name. -/
structure Declaration where
  name : List Char
  blanks : List Char := []
  /-- what follows the equals sign, if there is one -/
  value : Option (List Char) := none
  declarable : Declarable name
  all_blank : ∀ c ∈ blanks, Text.isBlank c = true ∧ c ≠ '\n'
  value_lf : ∀ text ∈ value, '\n' ∉ text

namespace Declaration

/-- What follows the blanks. -/
def assigned (d : Declaration) : List Char :=
  match d.value with
  | none => []
  | some text => '=' :: text

def line (d : Declaration) : List Char :=
  d.name ++ (d.blanks ++ d.assigned)

/-- What follows the name could not lengthen a run of digits. -/
theorem noLeadingDigit_blanks_append
    (d : Declaration) :
    NoLeadingDigit (d.blanks ++ d.assigned) := by
  intro c hc
  cases hblanks : d.blanks with
  | nil =>
      rw [hblanks, List.nil_append] at hc
      unfold assigned at hc
      cases hvalue : d.value with
      | none => simp [hvalue] at hc
      | some text =>
          have hequals : c = '=' := by simpa [hvalue] using hc.symm
          rw [hequals]
          decide
  | cons b rest =>
      rw [hblanks] at hc
      have hc : c = b := by simpa using hc.symm
      have hblank := (d.all_blank b (by simp [hblanks])).1
      subst hc
      by_contra hdigit
      rw [Text.isBlank_of_isDigit (by simpa using hdigit)] at hblank
      cases hblank

theorem isName_line
    (d : Declaration) :
    Version.isName d.line = true :=
  Version.isName_append d.declarable.isName d.noLeadingDigit_blanks_append

theorem lf_not_mem_line
    (d : Declaration) :
    '\n' ∉ d.line := by
  unfold line assigned
  intro h
  rcases List.mem_append.mp h with h | h
  · exact d.declarable.no_lf h
  · rcases List.mem_append.mp h with h | h
    · exact (d.all_blank _ h).2 rfl
    · cases hvalue : d.value with
      | none => simp [hvalue] at h
      | some text =>
          have htext : '\n' ∈ text := by simpa [hvalue] using h
          exact d.value_lf text hvalue htext

/-- Up to the first equals sign, a line holds the name and the blanks. -/
theorem takeWhile_line
    (d : Declaration) :
    d.line.takeWhile (· ≠ '=') = d.name ++ d.blanks := by
  have hname : ∀ c ∈ d.name, decide (c ≠ '=') = true := by
    intro c hc
    simpa using fun h : c = '=' => d.declarable.no_equals (h ▸ hc)
  have hblanks : ∀ c ∈ d.blanks, decide (c ≠ '=') = true := by
    intro c hc
    have hblank := (d.all_blank c hc).1
    have hne : c ≠ '=' := by
      rintro rfl
      revert hblank
      decide
    simpa using hne
  have hassigned : d.assigned.takeWhile (· ≠ '=') = [] := by
    unfold assigned
    cases d.value with
    | none => rfl
    | some text => rfl
  unfold line
  rw [List.takeWhile_append_of_pos hname, List.takeWhile_append_of_pos hblanks, hassigned,
    List.append_nil]

/-- **The name of a declaration is found in its line again.** -/
theorem declaredName_line
    (d : Declaration) :
    declaredName d.line = d.name := by
  obtain ⟨v, hv⟩ := Option.isSome_iff_exists.mp d.declarable.isName
  have hstart : Text.trimStart d.name = d.name := by
    rw [← Version.chars_of_ofChars? hv]
    exact Text.trimStart_cons _ (by decide)
  unfold declaredName
  rw [takeWhile_line, Text.trim_append_blanks _ (fun c hc => (d.all_blank c hc).1), Text.trim,
    hstart, Text.trimEnd_eq_self d.declarable.no_blank_end]

end Declaration

/-- What may follow the declarations: nothing, or a line that is no version name and then
anything. -/
inductive Closing : List Char → Prop
  | nothing :
      Closing []
  | lastLine
      {line : List Char}
      (hlf : '\n' ∉ line)
      (hname : Version.isName line = false) :
      Closing line
  | line
      {line : List Char}
      (rest : List Char)
      (hlf : '\n' ∉ line)
      (hname : Version.isName line = false) :
      Closing (line ++ '\n' :: rest)

/-- A manifest, part by part. -/
structure Document where
  leading : List Char
  header : List Char
  declarations : List Declaration
  closing : List Char
  leading_lines : leading = [] ∨ leading.getLast? = some '\n'
  leading_unmarked : ∀ line ∈ Text.lines leading, ¬ marker.toList <:+: line
  header_lf : '\n' ∉ header
  header_marked : marker.toList <:+: header
  closes : Closing closing

namespace Document

/-- The text of a manifest whose lines all end with a line feed. -/
def text (d : Document) : List Char :=
  d.leading ++ (d.header ++ '\n' :: (d.declarations.flatMap (·.line ++ ['\n']) ++ d.closing))

/-- A text is what a manifest says, with or without the line feed of its last line. -/
def Writes (d : Document) (text : List Char) : Prop :=
  text = d.text ∨ d.closing = [] ∧ text ++ ['\n'] = d.text

def names (d : Document) : List (List Char) :=
  d.declarations.map (·.name)

/-- Leading lines are cut off as a whole. -/
theorem pieces_leading_append
    (d : Document)
    (rest : List Char) :
    Text.pieces '\n' (d.leading ++ rest) =
      (Text.pieces '\n' d.leading).dropLast ++ Text.pieces '\n' rest := by
  rcases d.leading_lines with hnil | hlast
  · rw [hnil]
    rfl
  · obtain ⟨front, hfront⟩ := List.getLast?_eq_some_iff.mp hlast
    rw [hfront, List.append_assoc, List.singleton_append, Text.pieces_append_cons,
      Text.pieces_append_cons]
    simp [Text.pieces]

theorem pieces_text
    (d : Document) :
    Text.pieces '\n' d.text =
      (Text.pieces '\n' d.leading).dropLast ++
        d.header :: (d.declarations.map (·.line) ++ Text.pieces '\n' d.closing) := by
  have hlines : ∀ line ∈ d.declarations.map (·.line), '\n' ∉ line := by
    intro line hline
    obtain ⟨declaration, -, rfl⟩ := List.mem_map.mp hline
    exact declaration.lf_not_mem_line
  have hbody := Text.pieces_terminated_append '\n' d.closing hlines
  rw [List.flatMap_map] at hbody
  unfold text
  rw [pieces_leading_append, Text.pieces_append_sep d.header_lf, hbody]

/-- No leading piece opens the section. -/
theorem opensSection_leading
    (d : Document) :
    ∀ piece ∈ Text.pieces '\n' d.leading, opensSection piece = false := by
  intro piece hpiece
  obtain ⟨last, hlast, hlines⟩ := Text.map_trimEnd_lines d.leading
  have htrimmed : Text.trimEnd piece ∈ (Text.lines d.leading).map Text.trimEnd ++ last := by
    rw [hlines]
    exact List.mem_map_of_mem hpiece
  rw [← opensSection_trimEnd]
  rcases List.mem_append.mp htrimmed with h | h
  · obtain ⟨line, hline, htrim⟩ := List.mem_map.mp h
    rw [← htrim, opensSection_trimEnd, Bool.eq_false_iff, ne_eq, opensSection_iff]
    exact d.leading_unmarked line hline
  · have hempty : Text.trimEnd piece = [] := by
      rcases hlast with rfl | rfl
      · cases h
      · exact List.mem_singleton.mp h
    rw [hempty]
    decide

end Document

/-- The section starts behind the first line that opens it. -/
theorem afterMarker_append_cons
    {header : List Char}
    (hheader : opensSection header = true)
    (rest : List (List Char)) :
    ∀ {before : List (List Char)}, (∀ line ∈ before, opensSection line = false) →
      afterMarker (before ++ header :: rest) = some rest
  | [], _ => by
      rw [List.nil_append, afterMarker, if_pos hheader]
  | line :: more, h => by
      have hline := h line (by simp)
      have ih :=
        afterMarker_append_cons hheader rest (fun l hl => h l (List.mem_cons_of_mem _ hl))
      rw [List.cons_append, afterMarker, if_neg (by simp [hline]), ih]

/-- Nothing is declared by what follows the declarations. -/
theorem Closing.takeWhile_pieces
    {closing : List Char}
    (h : Closing closing) :
    (Text.pieces '\n' closing).takeWhile Version.isName = [] := by
  cases h with
  | nothing => rfl
  | lastLine hlf hname =>
      rw [Text.pieces_of_not_mem hlf]
      exact List.takeWhile_cons_of_neg (by simp [hname])
  | line rest hlf hname =>
      rw [Text.pieces_append_sep hlf]
      exact List.takeWhile_cons_of_neg (by simp [hname])

namespace Document

/-- **The names of a document are found in its text again.** -/
theorem namesIn_text
    (d : Document) :
    namesIn (Text.pieces '\n' d.text) = d.names := by
  have hheader : opensSection d.header = true := (opensSection_iff _).mpr d.header_marked
  have hleading :
      ∀ piece ∈ (Text.pieces '\n' d.leading).dropLast, opensSection piece = false :=
    fun piece hpiece => d.opensSection_leading piece ((List.dropLast_prefix _).subset hpiece)
  have hnames : ∀ line ∈ d.declarations.map (·.line), Version.isName line = true := by
    intro line hline
    obtain ⟨declaration, -, rfl⟩ := List.mem_map.mp hline
    exact declaration.isName_line
  have hdeclared : declaredName ∘ Declaration.line = Declaration.name :=
    funext Declaration.declaredName_line
  unfold namesIn
  rw [pieces_text, afterMarker_append_cons hheader _ hleading]
  simp only
  rw [List.takeWhile_append_of_pos hnames, d.closes.takeWhile_pieces, List.append_nil,
    List.map_map, hdeclared]
  rfl

theorem namesIn_of_writes
    (d : Document)
    {text : List Char}
    (h : d.Writes text) :
    namesIn (Text.pieces '\n' text) = d.names := by
  rcases h with rfl | ⟨-, htext⟩
  · exact d.namesIn_text
  · have hnames := d.namesIn_text
    rw [← htext, Text.pieces_append_cons] at hnames
    exact (namesIn_append_empty _).symm.trans hnames

end Document

/-- Only names that can be declared are ever scanned. -/
theorem declarable_scanned
    {text : List Char}
    {c : Catalog}
    (hscan : scan text = .ok c) :
    ∀ v ∈ c.versions, Declarable v.chars := by
  intro v hv
  have hlf := lf_not_mem_scanned hscan v hv
  rw [scan_eq_ok] at hscan
  cases hscan
  obtain ⟨w, -, rfl⟩ := List.mem_map.mp hv
  refine ⟨Version.isName_chars _, ?_, hlf, ?_⟩
  · rw [← declaredName_chars]
    intro hequals
    have hstart := (Text.trimEnd_isPrefix _).subset hequals
    have htake := (List.dropWhile_suffix _).subset hstart
    simpa using List.mem_takeWhile_imp htake
  · rw [← declaredName_chars]
    exact Text.isBlank_getLast?_trimEnd _

/-- Names that can be declared are declared by lines that hold nothing else. -/
theorem exists_declarations :
    ∀ {names : List (List Char)}, (∀ name ∈ names, Declarable name) →
      ∃ ds : List Declaration, ds.map (·.name) = names ∧ ds.map (·.line) = names
  | [], _ => ⟨[], rfl, rfl⟩
  | name :: more, h => by
      obtain ⟨ds, hnames, hlines⟩ :=
        exists_declarations (fun n hn => h n (List.mem_cons_of_mem _ hn))
      let d : Declaration :=
        { name := name
          declarable := h name (by simp)
          all_blank := by simp
          value_lf := by simp }
      have hline : d.line = name := List.append_nil name
      exact ⟨d :: ds, by simp [d, hnames], by simp [hline, hlines]⟩

/-- The plainest manifest that declares the given names. -/
def plainText (names : List String) : String :=
  marker ++ "\n" ++ String.join (names.map (· ++ "\n"))

/-- The plainest manifest of names that can be declared is the text of a document. -/
theorem exists_document_plainText
    {names : List String}
    (h : ∀ name ∈ names, Declarable name.toList) :
    ∃ d : Document,
      d.names = names.map String.toList ∧ d.closing = [] ∧ d.text = (plainText names).toList := by
  have hall : ∀ name ∈ names.map String.toList, Declarable name := by
    intro chars hchars
    obtain ⟨name, hname, rfl⟩ := List.mem_map.mp hchars
    exact h name hname
  obtain ⟨ds, hnames, hlines⟩ := exists_declarations hall
  let d : Document :=
    { leading := []
      header := marker.toList
      declarations := ds
      closing := []
      leading_lines := Or.inl rfl
      leading_unmarked := by simp
      header_lf := by decide
      header_marked := List.infix_rfl
      closes := .nothing }
  have hbody :
      ds.flatMap (·.line ++ ['\n']) = (names.map String.toList).flatMap (· ++ ['\n']) := by
    rw [← hlines, List.flatMap_map]
  refine ⟨d, hnames, rfl, ?_⟩
  unfold Document.text plainText
  rw [String.toList_append, String.toList_append, Text.toList_join_lines, ← hbody]
  simp [d]

/-- A catalog is known by the names in it. -/
theorem catalog_eq_of_chars
    {c c' : Catalog}
    (h : c.versions.map Version.chars = c'.versions.map Version.chars) :
    c = c' := by
  obtain ⟨versions⟩ := c
  obtain ⟨versions'⟩ := c'
  congr
  exact (List.map_inj_right fun _ _ => Version.chars_injective).mp h

/-- Texts from which the same names are found are scanned alike. -/
theorem scan_eq_of_namesIn
    {text : List Char}
    {c : Catalog}
    (h : namesIn (Text.pieces '\n' text) = c.versions.map Version.chars) :
    scan text = .ok c := by
  obtain ⟨c', hscan, hnames⟩ := scan_names text
  rw [hscan, catalog_eq_of_chars (hnames.trans h)]

/-- **Scanning undoes writing.**  Whatever document a text is written from, scanning the text
succeeds with the declared names in their order.  Conversely, scanning any text succeeds with
names that can be declared, and scanning their plainest manifest, with or without the line
feed of its last line, gives the same catalog again. -/
theorem scan_inverts_writing
    (text : List Char) :
    (∀ d : Document, d.Writes text →
      ∃ c : Catalog, scan text = .ok c ∧ c.names = d.names.map String.ofList)
    ∧
    (∃ c : Catalog,
      scan text = .ok c ∧
      (∀ name ∈ c.names, Declarable name.toList) ∧
      (∀ again : List Char,
        again = (plainText c.names).toList ∨ again ++ ['\n'] = (plainText c.names).toList →
          scan again = .ok c)) := by
  obtain ⟨c, hscan, hnames⟩ := scan_names text
  have hofList : c.names = (c.versions.map Version.chars).map String.ofList := by
    rw [List.map_map]
    rfl
  have htoList : c.names.map String.toList = c.versions.map Version.chars := by
    rw [Catalog.names, List.map_map]
    exact List.map_congr_left fun v _ => v.text_toList
  have hdeclarable : ∀ name ∈ c.names, Declarable name.toList := by
    intro name hname
    obtain ⟨v, hv, rfl⟩ := List.mem_map.mp hname
    rw [Version.text_toList]
    exact declarable_scanned hscan v hv
  constructor
  · intro d hd
    refine ⟨c, hscan, ?_⟩
    rw [hofList, hnames, d.namesIn_of_writes hd]
  · refine ⟨c, hscan, hdeclarable, ?_⟩
    intro again hagain
    obtain ⟨d, hdocument, hclosing, htext⟩ := exists_document_plainText hdeclarable
    have hwrites : d.Writes again := by
      rw [← htext] at hagain
      exact hagain.imp_right fun h => ⟨hclosing, h⟩
    apply scan_eq_of_namesIn
    rw [d.namesIn_of_writes hwrites, hdocument, htoList]

/-- Carriage returns, blanks inside a name, the marker inside a value and a version behind
the end of the section are all read as they were meant. -/
theorem scan_written_crlf :
    ∃ c : Catalog,
      scan "[package]\r\n[features] #\r\nv2-0 rc \t\r\nv00-1=[features]\r\n\r\nv9-9".toList =
        .ok c ∧
      c.names = ["v2-0 rc", "v00-1"] := by
  let first : Declaration :=
    { name := "v2-0 rc".toList
      blanks := [' ', '\t', '\r']
      declarable := ⟨by decide, by decide, by decide, fun c hc => by cases hc; decide⟩
      all_blank := by
        intro c hc
        have hc : c = ' ' ∨ c = '\t' ∨ c = '\r' := by simpa using hc
        rcases hc with rfl | rfl | rfl <;> decide
      value_lf := by simp }
  let second : Declaration :=
    { name := "v00-1".toList
      value := some "[features]\r".toList
      declarable := ⟨by decide, by decide, by decide, fun c hc => by cases hc; decide⟩
      all_blank := by simp
      value_lf := by
        rintro text ⟨rfl⟩
        decide }
  have hleading : ∀ line ∈ Text.lines "[package]\r\n".toList, ¬ opensSection line = true := by
    decide
  have hclosing : Closing (['\r'] ++ '\n' :: "v9-9".toList) :=
    .line _ (by decide) (by decide)
  let d : Document :=
    { leading := "[package]\r\n".toList
      header := "[features] #\r".toList
      declarations := [first, second]
      closing := "\r\nv9-9".toList
      leading_lines := by decide
      leading_unmarked := fun line hline h => hleading line hline ((opensSection_iff _).mpr h)
      header_lf := by decide
      header_marked := (opensSection_iff _).mp (by decide)
      closes := hclosing }
  exact (scan_inverts_writing _).1 d (Or.inl rfl)

end Manifest
end FeatureLadder
