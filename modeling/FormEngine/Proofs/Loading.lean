/-
  FormEngine/Proofs/Loading.lean
  ==============================
  **When loading has an outcome.**

  Loading gives a schema, a value map or settings, or reports what is wrong with the file
  (`Raised.Concludes`).  It rests on readers that are handed in, and of these no more is
  known than what they document (`Readers.IsDocumented`): they raise their own errors, and
  an integer with more digits than are converted makes a parser fail in another way.

  So there are three ways in which loading does not conclude.  A parser meets such an
  integer; a key of a value map is one, which cannot be shown as a text; or the first
  setting that cannot be used shows one, and so has no message that rejects it.
  `loading_outcome` says that there is no fourth, and that the first is met.
-/
import FormEngine.Proofs.Document.Overlong
import FormEngine.Proofs.Settings

namespace FormEngine

/-! ### Stages -/

namespace Raised

variable {α β δ δ' ε : Type} {x : Except (Raised δ ε) α} {f : α → Except (Raised δ ε) β}

/-- The stage gives a result, or raises the error that it documents. -/
def Concludes (x : Except (Raised δ ε) α) : Prop :=
  (∃ a, x = .ok a) ∨ ∃ error, x = .error (.documented error)

/-- The stage fails on a numeral. -/
def FailsOnNumeral (x : Except (Raised δ ε) α) : Prop := ∃ error, x = .error (.numeral error)

/-- Nothing else happens to the stage. -/
def IsForeseen (x : Except (Raised δ ε) α) : Prop := ∀ error, x ≠ .error (.other error)

theorem IsForeseen.concludes_iff (foreseen : IsForeseen x) : Concludes x ↔ ¬FailsOnNumeral x := by
  rcases x with (e | e | e) | a
  · exact iff_of_true (Or.inr ⟨e, rfl⟩) nofun
  · refine iff_of_false ?_ (fun h => h ⟨e, rfl⟩)
    rintro (⟨_, h⟩ | ⟨_, h⟩) <;> cases h
  · exact absurd rfl (foreseen e)
  · exact iff_of_true (Or.inl ⟨a, rfl⟩) nofun

theorem Concludes.isForeseen (concludes : Concludes x) : IsForeseen x := by
  rintro e rfl
  rcases concludes with ⟨_, h⟩ | ⟨_, h⟩ <;> cases h

theorem Concludes.not_failsOnNumeral (concludes : Concludes x) : ¬FailsOnNumeral x :=
  concludes.isForeseen.concludes_iff.mp concludes

/-- A stage that raises what it documents alone. -/
theorem concludes_documented {x : Except δ α} :
    Concludes (x.mapError (documented (ε := ε))) := by
  cases x with
  | ok a => exact Or.inl ⟨a, rfl⟩
  | error e => exact Or.inr ⟨e, rfl⟩

/-! Two stages fail as the first does, or else as the second does. -/

theorem failsOnNumeral_bind_iff :
    FailsOnNumeral (x >>= f) ↔ FailsOnNumeral x ∨ ∃ a, x = .ok a ∧ FailsOnNumeral (f a) := by
  simp only [FailsOnNumeral, Except.bind_eq_error_iff, exists_or]
  refine or_congr_right ⟨?_, ?_⟩
  · rintro ⟨e, a, first, second⟩
    exact ⟨a, first, e, second⟩
  · rintro ⟨a, first, e, second⟩
    exact ⟨e, a, first, second⟩

theorem IsForeseen.bind (first : IsForeseen x) (second : ∀ a, IsForeseen (f a)) :
    IsForeseen (x >>= f) := by
  intro e h
  rcases Except.bind_eq_error_iff.mp h with other | ⟨a, _, other⟩
  · exact first e other
  · exact second a e other

theorem Concludes.bind (first : Concludes x) (second : ∀ a, Concludes (f a)) :
    Concludes (x >>= f) := by
  rcases first with ⟨a, rfl⟩ | ⟨e, rfl⟩
  · exact second a
  · exact Or.inr ⟨e, rfl⟩

/-! Catching the documented error changes nothing else. -/

theorem failsOnNumeral_caught_iff {instead : δ → δ'} :
    FailsOnNumeral (x.mapError (caught instead)) ↔ FailsOnNumeral x := by
  rcases x with (e | e | e) | a
  · exact iff_of_false nofun nofun
  · exact iff_of_true ⟨e, rfl⟩ ⟨e, rfl⟩
  · exact iff_of_false nofun nofun
  · exact iff_of_false nofun nofun

theorem IsForeseen.caught (foreseen : IsForeseen x) (instead : δ → δ') :
    IsForeseen (x.mapError (Raised.caught instead)) := by
  rcases x with (e | e | e) | a
  · exact nofun
  · exact nofun
  · exact absurd rfl (foreseen e)
  · exact nofun

theorem Concludes.caught (concludes : Concludes x) (instead : δ → δ') :
    Concludes (x.mapError (Raised.caught instead)) := by
  rcases concludes with ⟨a, rfl⟩ | ⟨e, rfl⟩
  · exact Or.inl ⟨a, rfl⟩
  · exact Or.inr ⟨instead e, rfl⟩

/-- A stage whose only failures are numerals. -/
theorem failsOnNumeral_numeral_iff {x : Except NumeralError α} :
    FailsOnNumeral (x.mapError (numeral (δ := δ) (ε := ε))) ↔ ¬∃ a, x = .ok a := by
  cases x with
  | ok a => exact iff_of_false nofun (fun h => h ⟨a, rfl⟩)
  | error e => exact iff_of_true ⟨e, rfl⟩ nofun

theorem isForeseen_numeral {x : Except NumeralError α} :
    IsForeseen (x.mapError (numeral (δ := δ) (ε := ε))) := by
  cases x <;> exact nofun

theorem isForeseen_ofSettings {x : Except SettingsFailure α} :
    IsForeseen (x.mapError (ofSettings (ε := ε))) := by
  rcases x with (e | e) | a <;> exact nofun

theorem failsOnNumeral_ofSettings_iff {x : Except SettingsFailure α} :
    FailsOnNumeral (x.mapError (ofSettings (ε := ε))) ↔ ∃ error, x = .error (.numeral error) := by
  rcases x with (e | e) | a
  · exact iff_of_false nofun nofun
  · exact iff_of_true ⟨e, rfl⟩ ⟨e, rfl⟩
  · exact iff_of_false nofun nofun

end Raised

/-! ### Keys -/

/-- The key is an integer with more digits than are converted. -/
def Key.IsOverlong : Key → Prop
  | .integer n => ¬n.natAbs < Nat.pow 10 digitLimit
  | _ => False

/-- A key of the mapping is overlong. -/
def Parsed.HasOverlongKey {α : Type} (document : Parsed α) : Prop :=
  ∃ entries, document = .mapping entries ∧ ∃ entry ∈ entries, entry.1.IsOverlong

theorem Key.exists_shown_iff {key : Key} : (∃ s, key.shown = .ok s) ↔ ¬key.IsOverlong := by
  cases key with
  | text s => exact iff_of_true ⟨s, rfl⟩ not_false
  | integer n => exact Text.exists_writeDecimal_iff.trans not_not.symm
  | other shown => exact iff_of_true ⟨shown, rfl⟩ not_false

namespace Readers

open Folder (content isStrict normalPath)
open Raised Document

variable {α ι ε : Type} {readers : Readers α ι ε} {folder : Folder} {path : String}

/-- What is known of the readers.  They raise what they document and nothing else, but the
    parsers fail in another way on an integer with more digits than are converted. -/
structure IsDocumented (readers : Readers α ι ε) : Prop where
  strict (text : String) : IsForeseen (readers.strict text)
  loose (text : String) : IsForeseen (readers.loose text)
  sections (text : String) : IsForeseen (readers.sections text)
  model (entries : List (Key × α)) : Concludes (readers.model entries)
  strict_overlong {digits : List Char} (overlong : IsOverlong digits) :
    FailsOnNumeral (readers.strict (String.ofList (mappingOf digits)))
  loose_overlong {digits : List Char} (overlong : IsOverlong digits) :
    FailsOnNumeral (readers.loose (String.ofList (mappingOf digits)))
  sections_overlong {digits : List Char} (overlong : IsOverlong digits) :
    FailsOnNumeral (readers.sections (String.ofList (settingsFileOf digits)))

/-! ### Schemas and value maps -/

/-- At this path stands a document on which its parser meets an overlong integer. -/
def HoldsOverlongDocument (readers : Readers α ι ε) (folder : Folder) (path : String) : Prop :=
  ∃ text, folder path = some (.file text) ∧
    FailsOnNumeral (readers.parse (isStrict path) (content text))

/-- At this path stands a mapping with an overlong key. -/
def HoldsOverlongKey (readers : Readers α ι ε) (folder : Folder) (path : String) : Prop :=
  ∃ text document, folder path = some (.file text) ∧
    readers.parse (isStrict path) (content text) = .ok document ∧ document.HasOverlongKey

theorem IsDocumented.parse (documented : readers.IsDocumented) (strict : Bool) (text : String) :
    IsForeseen (readers.parse strict text) := by
  cases strict with
  | true => exact documented.strict text
  | false => exact documented.loose text

theorem IsDocumented.parse_overlong (documented : readers.IsDocumented) (strict : Bool)
    {digits : List Char} (overlong : IsOverlong digits) :
    FailsOnNumeral (readers.parse strict (String.ofList (mappingOf digits))) := by
  cases strict with
  | true => exact documented.strict_overlong overlong
  | false => exact documented.loose_overlong overlong

theorem IsDocumented.readDocument (documented : readers.IsDocumented) :
    IsForeseen (readers.readDocument folder path) := by
  unfold Readers.readDocument
  split
  · exact nofun
  · exact nofun
  · exact (documented.parse _ _).caught _

/-- What is asked of the file at a path is asked of the one file there. -/
theorem exists_file_iff {text : String} {p : String → Prop}
    (there : folder path = some (.file text)) :
    (∃ text, folder path = some (.file text) ∧ p text) ↔ p text := by
  rw [there]
  constructor
  · rintro ⟨_, same, holds⟩
    cases same
    exact holds
  · exact fun holds => ⟨text, rfl, holds⟩

theorem not_exists_file {found : Option Entry} {p : String → Prop} (there : folder path = found)
    (noFile : ∀ text, found ≠ some (.file text)) :
    ¬∃ text, folder path = some (.file text) ∧ p text :=
  fun ⟨text, file, _⟩ => noFile text (there.symm.trans file)

theorem failsOnNumeral_readDocument_iff :
    FailsOnNumeral (readers.readDocument folder path) ↔
      readers.HoldsOverlongDocument folder path := by
  unfold Readers.readDocument HoldsOverlongDocument
  split
  · next missing => exact iff_of_false nofun (not_exists_file missing nofun)
  · next inside => exact iff_of_false nofun (not_exists_file inside nofun)
  · next text there =>
    rw [exists_file_iff there]
    exact failsOnNumeral_caught_iff

theorem readDocument_eq_ok_iff {document : Parsed α} :
    readers.readDocument folder path = .ok document ↔
      ∃ text, folder path = some (.file text) ∧
        readers.parse (isStrict path) (content text) = .ok document := by
  unfold Readers.readDocument
  split
  · next missing => exact iff_of_false nofun (not_exists_file missing nofun)
  · next inside => exact iff_of_false nofun (not_exists_file inside nofun)
  · next text there =>
    rw [exists_file_iff there]
    exact Except.mapError_eq_ok_iff

/-- A parsed document is a schema or is reported. -/
theorem IsDocumented.schemaOf (documented : readers.IsDocumented) {file? : Option String}
    {document : Parsed α} : Concludes (readers.schemaOf file? document) := by
  refine Concludes.bind concludes_documented (fun entries => ?_)
  exact (documented.model entries).caught _

theorem IsDocumented.loadSchema (documented : readers.IsDocumented) :
    IsForeseen (readers.loadSchema folder path) :=
  documented.readDocument.bind fun _ => documented.schemaOf.isForeseen

theorem failsOnNumeral_loadSchema_iff (documented : readers.IsDocumented) :
    FailsOnNumeral (readers.loadSchema folder path) ↔
      readers.HoldsOverlongDocument folder (normalPath path) := by
  refine failsOnNumeral_bind_iff.trans ?_
  rw [failsOnNumeral_readDocument_iff]
  exact or_iff_left (fun ⟨_, _, fails⟩ => documented.schemaOf.not_failsOnNumeral fails)

/-- The entries are put under the texts of their keys. -/
theorem exists_named_iff {entry : Key × α} : (∃ e, named entry = .ok e) ↔ ¬entry.1.IsOverlong :=
  (Except.exists_bind_eq_ok_iff_of_total fun _ => ⟨_, rfl⟩).trans Key.exists_shown_iff

/-- A parsed document is a value map or is reported, unless a key of it is overlong. -/
theorem failsOnNumeral_valuesOf_iff {file? : Option String} {document : Parsed α} :
    FailsOnNumeral (valuesOf (ι := ι) (ε := ε) file? document) ↔ document.HasOverlongKey := by
  cases document with
  | null => exact iff_of_false nofun (fun ⟨_, same, _⟩ => nomatch same)
  | other kind => exact iff_of_false nofun (fun ⟨_, same, _⟩ => nomatch same)
  | mapping entries =>
    have mapped : FailsOnNumeral (valuesOf (ι := ι) (ε := ε) file? (.mapping entries)) ↔
        FailsOnNumeral ((entries.mapM named).mapError
          (numeral (δ := SchemaError ι) (ε := ε))) := by
      change FailsOnNumeral ((entries.mapM named).mapError numeral >>= fun es =>
        pure (Record.ofEntries es)) ↔ _
      exact failsOnNumeral_bind_iff.trans (or_iff_left (fun ⟨_, _, fails⟩ => nomatch fails))
    rw [mapped, failsOnNumeral_numeral_iff, Except.exists_mapM_eq_ok_iff]
    simp only [exists_named_iff, not_forall, not_not, exists_prop, Parsed.HasOverlongKey,
      Parsed.mapping.injEq, exists_eq_left']

theorem isForeseen_valuesOf {file? : Option String} {document : Parsed α} :
    IsForeseen (valuesOf (ι := ι) (ε := ε) file? document) := by
  cases document with
  | null => exact nofun
  | other kind => exact nofun
  | mapping entries => exact isForeseen_numeral.bind (fun _ => nofun)

theorem IsDocumented.loadValues (documented : readers.IsDocumented) :
    IsForeseen (readers.loadValues folder path) :=
  documented.readDocument.bind fun _ => isForeseen_valuesOf

theorem failsOnNumeral_loadValues_iff :
    FailsOnNumeral (readers.loadValues folder path) ↔
      readers.HoldsOverlongDocument folder (normalPath path) ∨
        readers.HoldsOverlongKey folder (normalPath path) := by
  refine failsOnNumeral_bind_iff.trans (or_congr failsOnNumeral_readDocument_iff ?_)
  simp only [failsOnNumeral_valuesOf_iff, readDocument_eq_ok_iff]
  constructor
  · rintro ⟨document, ⟨text, there, known⟩, overlong⟩
    exact ⟨text, document, there, known, overlong⟩
  · rintro ⟨text, document, there, known, overlong⟩
    exact ⟨document, ⟨text, there, known⟩, overlong⟩

/-! ### Settings -/

/-- The file holds settings of which the first that cannot be used shows an overlong integer. -/
def ShowsOverlongSetting (contents : Record Value) : Prop :=
  ∃ engine validation v, sectionOf contents "engine" = .ok engine ∧
    sectionOf contents "validation" = .ok validation ∧
      Settings.FirstUnusable (settingsGiven engine validation) v ∧ v.DisplaysOverlong

/-- At this path stands a settings file that can be neither used nor rejected. -/
def HoldsOverlongSettings (readers : Readers α ι ε) (folder : Folder) (path : String) : Prop :=
  ∃ text, folder path = some (.file text) ∧
    (FailsOnNumeral (readers.sections (content text)) ∨
      ∃ contents, readers.sections (content text) = .ok contents ∧ ShowsOverlongSetting contents)

theorem sectionOf_ne_numeral {contents : Record Value} {name : String} {e : NumeralError} :
    sectionOf contents name ≠ .error (.numeral e) := by
  unfold sectionOf
  split
  · exact nofun
  · exact nofun
  · exact nofun

theorem settingsOf_eq_numeral_iff {contents : Record Value} :
    (∃ e, settingsOf contents = .error (.numeral e)) ↔ ShowsOverlongSetting contents := by
  constructor
  · rintro ⟨e, h⟩
    rcases Except.bind_eq_error_iff.mp h with other | ⟨engine, inEngine, h⟩
    · exact absurd other sectionOf_ne_numeral
    rcases Except.bind_eq_error_iff.mp h with other | ⟨validation, inValidation, h⟩
    · exact absurd other sectionOf_ne_numeral
    obtain ⟨v, first, long⟩ := Settings.ofRecord_eq_numeral_iff.mp ⟨e, h⟩
    exact ⟨engine, validation, v, inEngine, inValidation, first, long⟩
  · rintro ⟨engine, validation, v, inEngine, inValidation, first, long⟩
    obtain ⟨e, h⟩ := Settings.ofRecord_eq_numeral_iff.mpr ⟨v, first, long⟩
    refine ⟨e, Except.bind_eq_error_iff.mpr (Or.inr ⟨engine, inEngine, ?_⟩)⟩
    exact Except.bind_eq_error_iff.mpr (Or.inr ⟨validation, inValidation, h⟩)

theorem IsDocumented.loadSettings (documented : readers.IsDocumented) :
    IsForeseen (readers.loadSettings folder path) := by
  unfold Readers.loadSettings
  dsimp only
  split
  · exact nofun
  · exact nofun
  · refine ((documented.sections _).caught _).bind (fun contents => ?_)
    exact isForeseen_ofSettings.bind (fun _ => nofun)

theorem failsOnNumeral_loadSettings_iff :
    FailsOnNumeral (readers.loadSettings folder path) ↔
      readers.HoldsOverlongSettings folder (normalPath path) := by
  unfold Readers.loadSettings HoldsOverlongSettings
  dsimp only
  split
  · next missing => exact iff_of_false nofun (not_exists_file missing nofun)
  · next inside => exact iff_of_false nofun (not_exists_file inside nofun)
  · next text there =>
    rw [exists_file_iff there]
    refine failsOnNumeral_bind_iff.trans (or_congr failsOnNumeral_caught_iff ?_)
    simp only [Except.mapError_eq_ok_iff]
    refine exists_congr fun contents => and_congr_right fun _ => ?_
    rw [failsOnNumeral_bind_iff, failsOnNumeral_ofSettings_iff, settingsOf_eq_numeral_iff]
    exact or_iff_left (fun ⟨_, _, fails⟩ => nomatch fails)

/-! ### Texts without returns -/

theorem plainLines_eq_self {s : List Char} (plain : ∀ c ∈ s, c ≠ '\r') :
    Folder.plainLines s = s := by
  fun_induction Folder.plainLines s with
  | case1 => rfl
  | case2 => exact absurd rfl (plain _ List.mem_cons_self)
  | case3 => exact absurd rfl (plain _ List.mem_cons_self)
  | case4 c s _ _ ih => rw [ih (fun d member => plain d (List.mem_cons_of_mem c member))]

theorem content_ofList {s : List Char} (plain : s.all (fun c => c != '\r') = true) :
    content (String.ofList s) = String.ofList s := by
  rw [content, String.toList_ofList,
    plainLines_eq_self (fun c member => bne_iff_ne.mp (List.all_eq_true.mp plain c member))]

theorem all_ne_return_of_isOverlong {digits : List Char} (overlong : IsOverlong digits) :
    digits.all (fun c => c != '\r') = true :=
  List.all_eq_true.mpr fun c member =>
    bne_iff_ne.mpr (ne_of_isDigit (overlong.isDigit c member) rfl)

theorem content_mappingOf {digits : List Char} (overlong : IsOverlong digits) :
    content (String.ofList (mappingOf digits)) = String.ofList (mappingOf digits) := by
  refine content_ofList ?_
  simp only [mappingOf, List.all_cons, List.all_append, all_ne_return_of_isOverlong overlong]
  rfl

theorem content_settingsFileOf {digits : List Char} (overlong : IsOverlong digits) :
    content (String.ofList (settingsFileOf digits)) = String.ofList (settingsFileOf digits) := by
  have heading : "[engine]\n".toList.all (fun c => c != '\r') = true := by decide +kernel
  have setting : "max_expression_length = ".toList.all (fun c => c != '\r') = true := by
    decide +kernel
  refine content_ofList (List.all_eq_true.mpr fun c member => ?_)
  rcases List.mem_append.mp member with front | line
  · exact List.all_eq_true.mp heading c front
  rcases List.mem_append.mp line with front | digit
  · exact List.all_eq_true.mp setting c front
  · exact List.all_eq_true.mp (all_ne_return_of_isOverlong overlong) c digit

/-! ### The readers of this library -/

section Library

variable {number : Nat} {digits : List Char} {text : String}

theorem parse_readers_strict : (Document.readers number).parse true text =
    ((read Document.strict number text).map Parsed.ofValue).mapError DocumentFault.raised := rfl

theorem parse_readers_loose : (Document.readers number).parse false text =
    ((readLoose number text).map Parsed.ofValue).mapError DocumentFault.raised := rfl

theorem parse_readers_of_isOverlong (overlong : IsOverlong digits) (strict : Bool) :
    (Document.readers number).parse strict (String.ofList (mappingOf digits)) =
      .error (.numeral (.reading digits.length)) := by
  cases strict with
  | true =>
    rw [parse_readers_strict, read_strict_of_isOverlong overlong]
    rfl
  | false =>
    rw [parse_readers_loose, readLoose_of_isOverlong overlong]
    rfl

theorem sections_readers_of_isOverlong (overlong : IsOverlong digits) :
    (Document.readers number).sections (String.ofList (settingsFileOf digits)) =
      .error (.numeral (.reading digits.length)) := by
  change (Sections.read _).mapError _ = _
  rw [read_settingsFileOf overlong]
  rfl

/-- The readers of this library do what they document. -/
theorem isDocumented_readers (number : Nat) : (Document.readers number).IsDocumented where
  strict _ := nofun
  loose _ := nofun
  sections _ := nofun
  model _ := concludes_documented
  strict_overlong overlong := ⟨_, parse_readers_of_isOverlong overlong true⟩
  loose_overlong overlong := ⟨_, parse_readers_of_isOverlong overlong false⟩
  sections_overlong overlong := ⟨_, sections_readers_of_isOverlong overlong⟩

end Library

/-- As many ones as are not converted any more. -/
def tooManyOnes : List Char := List.replicate (digitLimit + 1) '1'

theorem isOverlong_tooManyOnes : IsOverlong tooManyOnes where
  isDigit c member := by
    rw [List.eq_of_mem_replicate member]
    rfl
  head_ne := by
    rw [tooManyOnes, List.replicate_succ, List.head?_cons]
    decide
  long := by
    rw [tooManyOnes, List.length_replicate]
    exact Nat.lt_succ_self _

/-- A folder whose settings, and every other file, hold an integer with one digit too many. -/
def folderOfOnes : Folder := fun path =>
  if path = Folder.settingsPath then some (.file (String.ofList (settingsFileOf tooManyOnes)))
  else some (.file (String.ofList (mappingOf tooManyOnes)))

/-- A folder in which every file is a mapping with the value one. -/
def folderOfOne : Folder := fun _ => some (.file (String.ofList (mappingOf ['1'])))

theorem parse_one : (Document.readers 0).parse true (content (String.ofList (mappingOf ['1']))) =
    .ok (.mapping [(.text "a", .int 1)]) := by
  have word : Document.strict.word ['1', '\x7d'] = .ok (.int 1, ['\x7d']) := by
    change wordOrNumber strictWords Document.number ['1', '\x7d'] = _
    rw [wordOrNumber_of_isDigit rfl (by decide)]
    rfl
  have read : Document.read Document.strict 0 (String.ofList (mappingOf ['1'])) =
      .ok (.mapping (.read 0 _) [("a", .int 1)]) := read_mappingOf_of_ok rfl word
  have plain : content (String.ofList (mappingOf ['1'])) = String.ofList (mappingOf ['1']) :=
    content_ofList (by decide)
  rw [plain, parse_readers_strict, read]
  rfl

/-! ### Outcomes -/

/-- **Loading has an outcome unless an integer is too long.**  Given readers that do what they
    document, a schema is loaded or reported as faulty exactly if its parser does not meet an
    overlong integer, a value map exactly if moreover no key is one, and settings are loaded or
    rejected exactly if moreover the first that cannot be used shows none.  The parsers do meet
    one in a mapping or a settings file that holds one, and there nothing is loaded or reported. -/
theorem loading_outcome (documented : readers.IsDocumented) (folder : Folder) (path : String) :
    (Concludes (readers.loadSchema folder path) ↔
      ¬readers.HoldsOverlongDocument folder (normalPath path)) ∧
    (Concludes (readers.loadValues folder path) ↔
      ¬(readers.HoldsOverlongDocument folder (normalPath path) ∨
        readers.HoldsOverlongKey folder (normalPath path))) ∧
    (Concludes (readers.loadSettings folder path) ↔
      ¬readers.HoldsOverlongSettings folder (normalPath path)) ∧
    ∀ digits, IsOverlong digits →
      (folder (normalPath path) = some (.file (String.ofList (mappingOf digits))) →
        FailsOnNumeral (readers.loadSchema folder path) ∧
          FailsOnNumeral (readers.loadValues folder path)) ∧
      (folder (normalPath path) = some (.file (String.ofList (settingsFileOf digits))) →
        FailsOnNumeral (readers.loadSettings folder path)) := by
  refine ⟨?_, ?_, ?_, fun digits overlong => ⟨fun there => ?_, fun there => ?_⟩⟩
  · rw [documented.loadSchema.concludes_iff, failsOnNumeral_loadSchema_iff documented]
  · rw [documented.loadValues.concludes_iff, failsOnNumeral_loadValues_iff]
  · rw [documented.loadSettings.concludes_iff, failsOnNumeral_loadSettings_iff]
  · have held : readers.HoldsOverlongDocument folder (normalPath path) := by
      refine ⟨_, there, ?_⟩
      rw [content_mappingOf overlong]
      exact documented.parse_overlong _ overlong
    exact ⟨(failsOnNumeral_loadSchema_iff documented).mpr held,
      failsOnNumeral_loadValues_iff.mpr (Or.inl held)⟩
  · have held : readers.HoldsOverlongSettings folder (normalPath path) := by
      refine ⟨_, there, Or.inl ?_⟩
      rw [content_settingsFileOf overlong]
      exact documented.sections_overlong overlong
    exact failsOnNumeral_loadSettings_iff.mpr held

theorem loading_outcome_of_ones :
    (Document.readers 0).IsDocumented ∧ IsOverlong tooManyOnes ∧
      FailsOnNumeral ((Document.readers 0).loadSchema folderOfOnes "v.json") ∧
      FailsOnNumeral ((Document.readers 0).loadValues folderOfOnes "v.yaml") ∧
      FailsOnNumeral ((Document.readers 0).loadSettings folderOfOnes Folder.settingsPath) ∧
      Concludes ((Document.readers 0).loadValues folderOfOne "v.json") := by
  have documented := isDocumented_readers 0
  have overlong := isOverlong_tooManyOnes
  obtain ⟨_, _, _, inStrict⟩ := loading_outcome documented folderOfOnes "v.json"
  obtain ⟨_, _, _, inLoose⟩ := loading_outcome documented folderOfOnes "v.yaml"
  obtain ⟨_, _, _, inSettings⟩ := loading_outcome documented folderOfOnes Folder.settingsPath
  obtain ⟨_, concludes, _⟩ := loading_outcome documented folderOfOne "v.json"
  refine ⟨documented, overlong, ((inStrict _ overlong).1 rfl).1, ((inLoose _ overlong).1 rfl).2,
    (inSettings _ overlong).2 rfl, concludes.mpr ?_⟩
  have strict : isStrict (normalPath "v.json") = true := by decide
  rintro (⟨text, there, _, fails⟩ | ⟨text, document, there, read, entries, rfl, _, member, long⟩)
  · cases there
    rw [strict, parse_one] at fails
    cases fails
  · cases there
    rw [strict, parse_one] at read
    cases read
    rw [List.mem_singleton.mp member] at long
    exact long

/-- On such files every loader fails with the error of the numeral. -/
theorem loading_ones_eq_numeral :
    Folder.loadSchema folderOfOnes "v.json" = .error (.numeral (.reading 4301)) ∧
      Folder.loadValues folderOfOnes "v.json" = .error (.numeral (.reading 4301)) ∧
      Folder.loadValues folderOfOnes "v.yaml" = .error (.numeral (.reading 4301)) ∧
      Folder.loadSettings folderOfOnes Folder.settingsPath =
        .error (.numeral (.reading 4301)) := by
  have overlong := isOverlong_tooManyOnes
  have long : tooManyOnes.length = 4301 := List.length_replicate
  have document (number : Nat) (path : String) (other : path ≠ Folder.settingsPath) :
      (Document.readers number).readDocument folderOfOnes path =
        .error (.numeral (.reading 4301)) := by
    have there : folderOfOnes path = some (.file (String.ofList (mappingOf tooManyOnes))) :=
      if_neg other
    rw [readDocument, there]
    dsimp only
    rw [content_mappingOf overlong, parse_readers_of_isOverlong overlong, long]
    rfl
  have strictPath : normalPath "v.json" ≠ Folder.settingsPath := by decide
  have loosePath : normalPath "v.yaml" ≠ Folder.settingsPath := by decide
  have settings : (Document.readers 0).loadSettings folderOfOnes Folder.settingsPath =
      .error (.numeral (.reading 4301)) := by
    have there : folderOfOnes (normalPath Folder.settingsPath) =
        some (.file (String.ofList (settingsFileOf tooManyOnes))) := if_pos (by decide)
    rw [loadSettings, there]
    dsimp only
    rw [content_settingsFileOf overlong, sections_readers_of_isOverlong overlong, long]
    rfl
  refine ⟨?_, ?_, ?_, ?_⟩
  · rw [Folder.loadSchema, loadSchema, document 0 _ strictPath]
    rfl
  · rw [Folder.loadValues, loadValues, document 1 _ strictPath]
    rfl
  · rw [Folder.loadValues, loadValues, document 1 _ loosePath]
    rfl
  · rw [Folder.loadSettings, settings]
    rfl

end Readers

end FormEngine
