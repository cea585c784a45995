import SigVal.Lib.InputStream

/-!
# The type of a document

`DocType.getDocType` looks at the first five bytes of a document, and at the names of the
entries when they are those of a ZIP file. The first bytes are read through a buffer, the
entries through a second one on the same stream. What the first buffer has read ahead the
second one never sees: the entries are looked for behind the first 8192 bytes.
-/

namespace SigVal.Commons

open SigVal.Java

inductive DocType where
  | XML
  | PDF
  | ASICS_NON_ETSI
  | ASICS_S
  | ASICS_CADES
  | CADES
  | JOSE
  | JOSE_COMPACT
  | UNKNOWN
deriving DecidableEq, Repr

/-- A charset in which ASCII characters are one byte each and nothing else stands for
them. -/
structure Charset where
  decode : Bytes → String
  encode : String → Bytes
  ascii : ∀ bytes text, (∀ c ∈ text.toList, c.toNat < 128) →
    (decode bytes = text ↔ bytes = text.toList.map fun c => UInt8.ofNat c.toNat)

/-- What a `ZipInputStream` gives, entry by entry. -/
inductive ZipContents where
  /-- `getNextEntry` returns `null`. -/
  | done
  /-- `getNextEntry` throws. -/
  | failed
  /-- The data of the entry cannot be read. -/
  | damaged (name : String)
  | entry (name : String) (data : Bytes) (rest : ZipContents)

/-- What `getDocType` asks of the JVM. A ZIP file is read from the bytes of a stream and
from whether the stream breaks after them. -/
structure DocTypeEnv where
  caseTable : CaseTable
  defaultCharset : Charset
  zipInputStream : Bytes → Bool → ZipContents

namespace DocType

def xmlPreamble : Bytes := [0x3c, 0x3f, 0x78, 0x6d, 0x6c]

def xmlUtf8 : Bytes := [0xef, 0xbb, 0xbf, 0x3c, 0x3f]

/-- `PK`. -/
def zipPreamble : Bytes := [0x50, 0x4b]

def signaturesName : String := "META-INF/signatures.p7s"

/-- `String.trim`. -/
def trim (s : String) : List Char :=
  ((s.toList.dropWhile fun c => c.toNat ≤ 0x20).reverse.dropWhile fun c => c.toNat ≤ 0x20).reverse

/-- The loop over the entries: the data of the first entry without a slash, and the
signatures. -/
def readEntries (table : CaseTable) (datafile signatures : Option Bytes) : ZipContents → DocType
  | .done => if datafile.isNone || signatures.isNone then .UNKNOWN else .ASICS_CADES
  | .failed => .UNKNOWN
  | .damaged name =>
      if name = signaturesName then .UNKNOWN
      else if table.equalsIgnoreCase name signaturesName then .ASICS_NON_ETSI
      else if !name.toList.contains '/' && datafile.isSome then .ASICS_S
      else .UNKNOWN
  | .entry name data rest =>
      if name = signaturesName then readEntries table datafile (some data) rest
      else if table.equalsIgnoreCase name signaturesName then .ASICS_NON_ETSI
      else if !name.toList.contains '/' then
        match datafile with
        | none => readEntries table (some data) signatures rest
        | some _ => .ASICS_S
      else readEntries table datafile signatures rest

/-- `getDocType`. The mark and the reset of the first buffer move nothing in the stream
that the second one reads. -/
def getDocType (env : DocTypeEnv) (is : InputStream) : DocType :=
  match (BufferedInputStream.marked is).read 5 with
  | .error _ => .UNKNOWN
  | .ok (preamble, input) =>
      if preamble.length < 5 then .UNKNOWN
      else
        let preambleString := env.defaultCharset.decode preamble
        if preamble = xmlPreamble ∨ preamble = xmlUtf8 then .XML
        else if preambleString = "%PDF-" then .PDF
        else if zipPreamble.isPrefixOf preamble then
          readEntries env.caseTable none none
            (env.zipInputStream input.input.content input.input.broken)
        else if (env.defaultCharset.encode preambleString).head? = some 0x30 then .CADES
        else if "\x7b".toList.isPrefixOf (trim preambleString) then .JOSE
        else if "ey".toList.isPrefixOf (trim preambleString) then .JOSE_COMPACT
        else .UNKNOWN

/-- `getDocType` of a byte array. -/
def getDocTypeOf (env : DocTypeEnv) (document : Bytes) : DocType :=
  getDocType env (InputStream.ofBytes document)

end DocType

open DocType

/-! ## The kinds of archives -/

/-- The name without a slash of a data file. -/
def isDataFile (name : String) : Bool := !name.toList.contains '/'

/-- The name of the signatures in different case. -/
def isWrongCase (table : CaseTable) (name : String) : Bool :=
  name != signaturesName && table.equalsIgnoreCase name signaturesName

/-- Among the entries up to the first one of a wrong case there is one to stop at, as far as
it goes by how many data files come before it. -/
def StopsAt (table : CaseTable) (stop : Nat → String → Prop) (files : Nat)
    (names : List String) : Prop :=
  ∃ before name after, names = before ++ name :: after ∧
    (∀ other ∈ before, isWrongCase table other = false) ∧
    stop (files + before.countP isDataFile) name

/-- A second data file. -/
def IsSecondFile (table : CaseTable) (files : Nat) (name : String) : Prop :=
  files = 1 ∧ isDataFile name = true ∧ isWrongCase table name = false

/-- A name of a wrong case, behind one data file at the most. -/
def IsFirstWrongCase (table : CaseTable) (files : Nat) (name : String) : Prop :=
  files ≤ 1 ∧ isWrongCase table name = true

/-- The second data file comes before any signatures of a wrong case. -/
def SecondFileFirst (table : CaseTable) (names : List String) : Prop :=
  StopsAt table (IsSecondFile table) 0 names

/-- Signatures of a wrong case come before any second data file. -/
def WrongCaseFirst (table : CaseTable) (names : List String) : Prop :=
  StopsAt table (IsFirstWrongCase table) 0 names

/-- Signatures and one data file, and none of a wrong case. -/
structure EtsiCades (table : CaseTable) (names : List String) : Prop where
  signatures : signaturesName ∈ names
  dataFile : names.countP isDataFile = 1
  rightCase : ∀ name ∈ names, isWrongCase table name = false

/-- The type is the one of an archive with these entries. -/
structure Classified (table : CaseTable) (names : List String) (type : DocType) : Prop where
  cades : type = .ASICS_CADES ↔ EtsiCades table names
  second : type = .ASICS_S ↔ SecondFileFirst table names
  wrongCase : type = .ASICS_NON_ETSI ↔ WrongCaseFirst table names

namespace ZipContents

/-- The names that are given before the end or a failure. -/
def names : ZipContents → List String
  | done => []
  | failed => []
  | damaged name => [name]
  | entry name _ rest => name :: rest.names

/-- The entries are read to the end. -/
def complete : ZipContents → Bool
  | done => true
  | failed => false
  | damaged _ => false
  | entry _ _ rest => rest.complete

end ZipContents

/-! ## The loop over the entries -/

section Entries

variable {table : CaseTable} {stop : Nat → String → Prop} {files : Nat} {name : String}
  {rest : List String}

theorem not_stopsAt_nil : ¬ StopsAt table stop files [] := by
  rintro ⟨before, name, after, hsplit, -⟩
  cases before with
  | nil => cases hsplit
  | cons _ _ => cases hsplit

/-- It is stopped at an entry, or at a later one if the entry is not of a wrong case. -/
theorem stopsAt_cons :
    StopsAt table stop files (name :: rest) ↔
      stop files name ∨
        isWrongCase table name = false ∧
          StopsAt table stop (files + if isDataFile name = true then 1 else 0) rest := by
  constructor
  · rintro ⟨before, found, after, hsplit, hbefore, hstop⟩
    cases before with
    | nil =>
        cases hsplit
        exact .inl hstop
    | cons first before =>
        cases hsplit
        obtain ⟨hfirst, hbefore⟩ := List.forall_mem_cons.mp hbefore
        refine .inr ⟨hfirst, before, found, after, rfl, hbefore, ?_⟩
        rwa [List.countP_cons, Nat.add_comm (before.countP _), ← Nat.add_assoc] at hstop
  · rintro (hstop | ⟨hfirst, before, found, after, rfl, hbefore, hstop⟩)
    · exact ⟨[], name, rest, rfl, by simp, hstop⟩
    · refine ⟨name :: before, found, after, rfl, List.forall_mem_cons.mpr ⟨hfirst, hbefore⟩, ?_⟩
      rwa [List.countP_cons, Nat.add_comm (before.countP _), ← Nat.add_assoc]

theorem isDataFile_signaturesName : isDataFile signaturesName = false := by decide

theorem isWrongCase_signaturesName (table : CaseTable) :
    isWrongCase table signaturesName = false := by
  simp [isWrongCase]

end Entries

/-- What the loop makes of the entries that are left, with so many data files behind it. -/
structure Reads (table : CaseTable) (files : Nat) (signed : Prop) (contents : ZipContents)
    (type : DocType) : Prop where
  cades : type = .ASICS_CADES ↔ contents.complete = true ∧
    (signed ∨ signaturesName ∈ contents.names) ∧
      files + contents.names.countP isDataFile = 1 ∧
        ∀ name ∈ contents.names, isWrongCase table name = false
  second : type = .ASICS_S ↔ StopsAt table (IsSecondFile table) files contents.names
  wrongCase : type = .ASICS_NON_ETSI ↔
    StopsAt table (IsFirstWrongCase table) files contents.names

section Loop

variable {table : CaseTable} {files : Nat} {signed : Prop} {contents rest : ZipContents}
  {name : String} {names : List String} {type : DocType}

/-- An entry of a wrong case ends the loop. -/
theorem reads_wrongCase (hnames : contents.names = name :: names)
    (hwrong : isWrongCase table name = true) (hfiles : files ≤ 1) :
    Reads table files signed contents .ASICS_NON_ETSI := by
  refine ⟨?_, ?_, ?_⟩
  · apply iff_of_false (by decide)
    rintro ⟨-, -, -, hclean⟩
    have hright := hclean name (by simp [hnames])
    rw [hwrong] at hright
    cases hright
  · rw [hnames, stopsAt_cons]
    apply iff_of_false (by decide)
    rintro (⟨-, -, hright⟩ | ⟨hright, -⟩)
    · rw [hwrong] at hright
      cases hright
    · rw [hwrong] at hright
      cases hright
  · rw [hnames, stopsAt_cons]
    exact iff_of_true rfl (.inl ⟨hfiles, hwrong⟩)

/-- A second data file ends it as well. -/
theorem reads_second (hnames : contents.names = name :: names)
    (hright : isWrongCase table name = false) (hfile : isDataFile name = true) :
    Reads table 1 signed contents .ASICS_S := by
  refine ⟨?_, ?_, ?_⟩
  · apply iff_of_false (by decide)
    rintro ⟨-, -, hcount, -⟩
    rw [hnames, List.countP_cons, if_pos hfile] at hcount
    omega
  · rw [hnames, stopsAt_cons]
    exact iff_of_true rfl (.inl ⟨rfl, hfile, hright⟩)
  · rw [hnames, stopsAt_cons]
    apply iff_of_false (by decide)
    rintro (⟨-, hwrong⟩ | ⟨-, before, found, after, hsplit, -, hcount, -⟩)
    · rw [hright] at hwrong
      cases hwrong
    · rw [if_pos hfile] at hcount
      omega

/-- Nothing is stopped at where the entry is not of a wrong case and no second data file. -/
theorem stopsAt_cons_of_skip {stop : Nat → String → Prop} (hright : isWrongCase table name = false)
    (hskip : ¬ stop files name) :
    StopsAt table stop files (name :: names) ↔
      StopsAt table stop (files + if isDataFile name = true then 1 else 0) names := by
  rw [stopsAt_cons, or_iff_right hskip, and_iff_right hright]

theorem not_isFirstWrongCase (hright : isWrongCase table name = false) :
    ¬ IsFirstWrongCase table files name := by
  rintro ⟨-, hwrong⟩
  rw [hright] at hwrong
  cases hwrong

/-- An entry whose data cannot be read ends it without a result. -/
theorem reads_damaged (hright : isWrongCase table name = false)
    (hskip : ¬ IsSecondFile table files name) :
    Reads table files signed (.damaged name) .UNKNOWN := by
  refine ⟨iff_of_false (by decide) (fun h => Bool.false_ne_true h.1), ?_, ?_⟩
  · apply iff_of_false (by decide)
    rw [ZipContents.names, stopsAt_cons_of_skip hright hskip]
    exact not_stopsAt_nil
  · apply iff_of_false (by decide)
    rw [ZipContents.names, stopsAt_cons_of_skip hright (not_isFirstWrongCase hright)]
    exact not_stopsAt_nil

/-- Any other entry is counted, and the loop goes on. -/
theorem reads_entry {data : Bytes} (hright : isWrongCase table name = false)
    (hskip : ¬ IsSecondFile table files name)
    (h : Reads table (files + if isDataFile name = true then 1 else 0)
      (signed ∨ name = signaturesName) rest type) :
    Reads table files signed (.entry name data rest) type := by
  refine ⟨?_, ?_, ?_⟩
  · rw [h.cades, ZipContents.complete, ZipContents.names, List.countP_cons, List.mem_cons,
      List.forall_mem_cons, or_assoc, eq_comm (a := name), Nat.add_assoc, Nat.add_comm (ite _ _ _)]
    tauto
  · rw [h.second, ZipContents.names, stopsAt_cons_of_skip hright hskip]
  · rw [h.wrongCase, ZipContents.names,
      stopsAt_cons_of_skip hright (not_isFirstWrongCase hright)]

end Loop

theorem isWrongCase_of_ne {table : CaseTable} {name : String} (hne : name ≠ signaturesName) :
    isWrongCase table name = table.equalsIgnoreCase name signaturesName := by
  unfold isWrongCase
  rw [bne_iff_ne.mpr hne, Bool.true_and]

theorem not_isSecondFile_signaturesName {table : CaseTable} {files : Nat} :
    ¬ IsSecondFile table files signaturesName := by
  rintro ⟨-, hfile, -⟩
  cases hfile

/-- The end of the entries. -/
theorem reads_done (table : CaseTable) (datafile signatures : Option Bytes) :
    Reads table datafile.toList.length (signatures.isSome = true) .done
      (readEntries table datafile signatures .done) := by
  unfold readEntries
  refine ⟨?_, ?_, ?_⟩
  · cases datafile with
    | none => simp [ZipContents.names]
    | some datafile =>
        cases signatures with
        | none => simp [ZipContents.names]
        | some signatures => simp [ZipContents.names, ZipContents.complete]
  · refine iff_of_false ?_ not_stopsAt_nil
    split
    · decide
    · decide
  · refine iff_of_false ?_ not_stopsAt_nil
    split
    · decide
    · decide

/-- The loop from any entry on. -/
theorem readEntries_reads (table : CaseTable) (contents : ZipContents) :
    ∀ datafile signatures, Reads table datafile.toList.length (signatures.isSome = true) contents
      (readEntries table datafile signatures contents) := by
  induction contents with
  | done => exact reads_done table
  | failed =>
      intro datafile signatures
      have hnone : ∀ {stop files}, ¬ StopsAt table stop files ZipContents.failed.names :=
        not_stopsAt_nil
      exact ⟨iff_of_false (fun h => by cases h) fun h => Bool.false_ne_true h.1,
        iff_of_false (fun h => by cases h) hnone, iff_of_false (fun h => by cases h) hnone⟩
  | damaged name =>
      intro datafile signatures
      unfold readEntries
      by_cases hsig : name = signaturesName
      · rw [if_pos hsig, hsig]
        exact reads_damaged (isWrongCase_signaturesName table) not_isSecondFile_signaturesName
      rw [if_neg hsig, ← isWrongCase_of_ne hsig]
      by_cases hwrong : isWrongCase table name = true
      · rw [if_pos hwrong]
        exact reads_wrongCase rfl hwrong (by cases datafile <;> simp)
      rw [if_neg hwrong]
      rw [Bool.not_eq_true] at hwrong
      show Reads _ _ _ _ (if (isDataFile name && datafile.isSome) = true then _ else _)
      cases datafile with
      | none =>
          rw [Option.isSome_none, Bool.and_false, if_neg Bool.false_ne_true]
          exact reads_damaged hwrong fun h => by cases h.1
      | some datafile =>
          rw [Option.isSome_some, Bool.and_true]
          by_cases hfile : isDataFile name = true
          · rw [if_pos hfile]
            exact reads_second rfl hwrong hfile
          · rw [if_neg hfile]
            exact reads_damaged hwrong fun h => hfile h.2.1
  | entry name data rest ih =>
      intro datafile signatures
      unfold readEntries
      by_cases hsig : name = signaturesName
      · rw [if_pos hsig]
        subst hsig
        apply reads_entry (isWrongCase_signaturesName table) not_isSecondFile_signaturesName
        have hrest := ih datafile (some data)
        simpa [isDataFile_signaturesName] using hrest
      rw [if_neg hsig, ← isWrongCase_of_ne hsig]
      by_cases hwrong : isWrongCase table name = true
      · rw [if_pos hwrong]
        exact reads_wrongCase rfl hwrong (by cases datafile <;> simp)
      rw [if_neg hwrong]
      rw [Bool.not_eq_true] at hwrong
      show Reads _ _ _ _ (if isDataFile name = true then _ else _)
      by_cases hfile : isDataFile name = true
      · rw [if_pos hfile]
        cases datafile with
        | none =>
            apply reads_entry hwrong (fun h => by cases h.1)
            have hrest := ih (some data) signatures
            simpa [hfile, hsig] using hrest
        | some datafile => exact reads_second rfl hwrong hfile
      · rw [if_neg hfile]
        apply reads_entry hwrong (fun h => hfile h.2.1)
        have hrest := ih datafile signatures
        simpa [hfile, hsig] using hrest

/-! ## The bytes that are classified -/

/-- The entries that are listed: those of the bytes behind the first buffer, of a document
that begins like a ZIP file. -/
def listedEntries (env : DocTypeEnv) (is : InputStream) : ZipContents :=
  match BufferedInputStream.readAhead 5 0 is.chunks with
  | none => .done
  | some n =>
      if zipPreamble.isPrefixOf is.content then
        env.zipInputStream (is.content.drop n) is.broken
      else .done

/-- A type of no archive. -/
def NoArchive (type : DocType) : Prop :=
  type ≠ .ASICS_CADES ∧ type ≠ .ASICS_S ∧ type ≠ .ASICS_NON_ETSI

instance (type : DocType) : Decidable (NoArchive type) := inferInstanceAs (Decidable (_ ∧ _))

theorem noArchive_ite {c : Prop} [Decidable c] {type type' : DocType} (h : NoArchive type)
    (h' : NoArchive type') : NoArchive (if c then type else type') := by
  split
  · exact h
  · exact h'

theorem reads_noArchive {table : CaseTable} {type : DocType} (h : NoArchive type) :
    Reads table 0 False .done type := by
  refine ⟨iff_of_false h.1 ?_, iff_of_false h.2.1 not_stopsAt_nil,
    iff_of_false h.2.2 not_stopsAt_nil⟩
  rintro ⟨-, hsigned | hmem, -⟩
  · exact hsigned
  · cases hmem

/-- A ZIP file is taken for no other document. -/
theorem preamble_of_zip (charset : Charset) {preamble : Bytes}
    (hzip : zipPreamble.isPrefixOf preamble = true) :
    ¬ (preamble = xmlPreamble ∨ preamble = xmlUtf8) ∧ charset.decode preamble ≠ "%PDF-" := by
  refine ⟨?_, ?_⟩
  · rintro (rfl | rfl)
    · cases hzip
    · cases hzip
  · intro hpdf
    have hascii : ∀ c ∈ "%PDF-".toList, c.toNat < 128 := by
      show ∀ c ∈ ['%', 'P', 'D', 'F', '-'], c.toNat < 128
      simp
    rw [(charset.ascii preamble _ hascii).mp hpdf] at hzip
    cases hzip

/-- The type of a document is the one of the entries that are listed. -/
theorem getDocType_reads (env : DocTypeEnv) (is : InputStream) :
    Reads env.caseTable 0 False (listedEntries env is) (getDocType env is) := by
  have hheld := BufferedInputStream.held_read_marked is (by decide : 0 < 5) (by decide)
  unfold getDocType listedEntries
  rw [← hheld]
  cases hread : (BufferedInputStream.marked is).read 5 with
  | error ex =>
      have hunknown : NoArchive .UNKNOWN := by decide
      exact reads_noArchive hunknown
  | ok result =>
      obtain ⟨preamble, input⟩ := result
      obtain ⟨hpreamble, hcontent, hbroken, -, -⟩ := BufferedInputStream.read_marked hread
      dsimp only [BufferedInputStream.held]
      by_cases hshort : preamble.length < 5
      · rw [if_pos hshort, if_pos hshort]
        exact reads_noArchive (by decide)
      · have hsame : zipPreamble.isPrefixOf preamble = zipPreamble.isPrefixOf is.content := by
          rw [Bool.eq_iff_iff, List.isPrefixOf_iff_prefix, List.isPrefixOf_iff_prefix, hpreamble,
            List.prefix_take_iff]
          apply and_iff_left
          show 2 ≤ preamble.length
          omega
        rw [if_neg hshort, if_neg hshort]
        dsimp only
        rw [← hsame]
        by_cases hzip : zipPreamble.isPrefixOf preamble = true
        · obtain ⟨hxml, hpdf⟩ := preamble_of_zip env.defaultCharset hzip
          rw [if_neg hxml, if_neg hpdf, if_pos hzip, if_pos hzip, hcontent, hbroken]
          simpa using readEntries_reads env.caseTable _ none none
        · rw [if_neg hzip, if_neg hzip]
          refine reads_noArchive (noArchive_ite (by decide) (noArchive_ite (by decide) ?_))
          exact noArchive_ite (by decide)
            (noArchive_ite (by decide) (noArchive_ite (by decide) (by decide)))

/-- Of a byte array the first 8192 bytes are not looked at. -/
theorem listedEntries_ofBytes (env : DocTypeEnv) (document : Bytes) :
    listedEntries env (InputStream.ofBytes document) =
      if 5 ≤ document.length ∧ zipPreamble <+: document then
        env.zipInputStream (document.drop 8192) false
      else .done := by
  unfold listedEntries
  rw [BufferedInputStream.readAhead_ofBytes document (by decide), InputStream.content_ofBytes]
  by_cases hshort : document.length < 5
  · rw [if_pos hshort, if_neg (by omega)]
  · rw [if_neg hshort]
    dsimp only
    by_cases hzip : zipPreamble <+: document
    · rw [if_pos (List.isPrefixOf_iff_prefix.mpr hzip), if_pos ⟨by omega, hzip⟩]
      refine congrArg (env.zipInputStream · false) ?_
      rcases Nat.le_total BufferedInputStream.capacity document.length with hle | hle
      · rw [Nat.min_eq_left hle]
        rfl
      · have hall : document.drop 8192 = [] := List.drop_of_length_le hle
        rw [Nat.min_eq_right hle, List.drop_length, hall]
    · rw [if_neg (mt List.isPrefixOf_iff_prefix.mp hzip), if_neg fun h => hzip h.2]

/-! ## When archives are classified -/

/-- The listed entries make the same kind of archive as the names. -/
structure Agrees (table : CaseTable) (names : List String) (listed : ZipContents) : Prop where
  cades : EtsiCades table names ↔ listed.complete = true ∧ EtsiCades table listed.names
  second : SecondFileFirst table names ↔ SecondFileFirst table listed.names
  wrongCase : WrongCaseFirst table names ↔ WrongCaseFirst table listed.names

theorem etsiCades_iff {table : CaseTable} {names : List String} :
    EtsiCades table names ↔ signaturesName ∈ names ∧ names.countP isDataFile = 1 ∧
      ∀ name ∈ names, isWrongCase table name = false :=
  ⟨fun h => ⟨h.signatures, h.dataFile, h.rightCase⟩, fun h => ⟨h.1, h.2.1, h.2.2⟩⟩

theorem classified_iff_agrees {table : CaseTable} {names : List String} {listed : ZipContents}
    {type : DocType} (h : Reads table 0 False listed type) :
    Classified table names type ↔ Agrees table names listed := by
  have hcades : type = .ASICS_CADES ↔
      listed.complete = true ∧ EtsiCades table listed.names := by
    rw [h.cades, etsiCades_iff, false_or, Nat.zero_add]
  constructor
  · intro hc
    exact ⟨hc.cades.symm.trans hcades, hc.second.symm.trans h.second,
      hc.wrongCase.symm.trans h.wrongCase⟩
  · intro ha
    exact ⟨hcades.trans ha.cades.symm, h.second.trans ha.second.symm,
      h.wrongCase.trans ha.wrongCase.symm⟩

/-- **The type of an archive.** A stream is classified by the entries of the archive that
it holds exactly when the entries that are listed behind the first buffer make the same
kind of archive. For a byte array these are the ones behind the first 8192 bytes. -/
theorem archive_classified_iff (env : DocTypeEnv) :
    (∀ is : InputStream,
      Classified env.caseTable (env.zipInputStream is.content is.broken).names
          (getDocType env is) ↔
        Agrees env.caseTable (env.zipInputStream is.content is.broken).names
          (listedEntries env is)) ∧
    ∀ document : Bytes,
      Classified env.caseTable (env.zipInputStream document false).names
          (getDocTypeOf env document) ↔
        Agrees env.caseTable (env.zipInputStream document false).names
          (if 5 ≤ document.length ∧ zipPreamble <+: document then
            env.zipInputStream (document.drop 8192) false
          else .done) := by
  refine ⟨fun is => classified_iff_agrees (getDocType_reads env is), fun document => ?_⟩
  have hreads := getDocType_reads env (InputStream.ofBytes document)
  rw [listedEntries_ofBytes] at hreads
  exact classified_iff_agrees hreads

/-! ## Archives that are not seen -/

/-- The signature of the header before an entry. -/
def localHeader : Bytes := [0x50, 0x4b, 0x03, 0x04]

/-- Entries are listed only from where a header stands. -/
def ListsFromHeaders (zipInputStream : Bytes → Bool → ZipContents) : Prop :=
  ∀ bytes broken, ¬ localHeader <+: bytes → (zipInputStream bytes broken).names = []

/-- The names of none of the kinds of archives. -/
def OfNoKind (table : CaseTable) (names : List String) : Prop :=
  ¬ EtsiCades table names ∧ ¬ SecondFileFirst table names ∧ ¬ WrongCaseFirst table names

theorem ofNoKind_nil (table : CaseTable) : OfNoKind table [] :=
  ⟨fun h => List.not_mem_nil h.signatures, not_stopsAt_nil, not_stopsAt_nil⟩

theorem agrees_iff_of_nil {table : CaseTable} {names : List String} {listed : ZipContents}
    (h : listed.names = []) : Agrees table names listed ↔ OfNoKind table names := by
  have hnone : OfNoKind table listed.names := by
    rw [h]
    exact ofNoKind_nil table
  obtain ⟨hcades, hsecond, hwrong⟩ := hnone
  constructor
  · intro ha
    exact ⟨fun hk => hcades (ha.cades.mp hk).2, fun hk => hsecond (ha.second.mp hk),
      fun hk => hwrong (ha.wrongCase.mp hk)⟩
  · rintro ⟨hcades', hsecond', hwrong'⟩
    exact ⟨iff_of_false hcades' fun hk => hcades hk.2, iff_of_false hsecond' hsecond,
      iff_of_false hwrong' hwrong⟩

/-- An array is classified only as no archive when no header follows its first 8192 bytes,
as in an archive that is not longer than that. -/
theorem unseen_archive_iff (env : DocTypeEnv) (hzip : ListsFromHeaders env.zipInputStream)
    {document : Bytes} (hbehind : ¬ localHeader <+: document.drop 8192) :
    Classified env.caseTable (env.zipInputStream document false).names
        (getDocTypeOf env document) ↔
      OfNoKind env.caseTable (env.zipInputStream document false).names := by
  have hreads := getDocType_reads env (InputStream.ofBytes document)
  rw [listedEntries_ofBytes] at hreads
  refine (classified_iff_agrees hreads).trans (agrees_iff_of_nil ?_)
  split
  · exact hzip _ _ hbehind
  · rfl

/-! ## A small archive -/

theorem byte_of_char (b : UInt8) : UInt8.ofNat (Char.ofUInt8 b).toNat = b := by
  show UInt8.ofNat b.toUInt32.toNat = b
  rw [UInt8.toNat_toUInt32, UInt8.ofNat_toNat]

theorem char_of_byte {c : Char} (h : c.toNat < 128) :
    Char.ofUInt8 (UInt8.ofNat c.toNat) = c := by
  apply Char.ext
  apply UInt32.toNat_inj.mp
  show (UInt8.ofNat c.toNat).toUInt32.toNat = c.toNat
  rw [UInt8.toNat_toUInt32, UInt8.toNat_ofNat_of_lt']
  show c.toNat < 256
  omega

/-- ISO-8859-1. -/
def latin1 : Charset where
  decode bytes := String.ofList (bytes.map Char.ofUInt8)
  encode text := text.toList.map fun c => UInt8.ofNat c.toNat
  ascii := by
    intro bytes text hascii
    constructor
    · intro hdecode
      rw [← hdecode, String.toList_ofList, List.map_map]
      exact (List.map_id'' byte_of_char bytes).symm
    · intro hbytes
      rw [hbytes, List.map_map]
      apply String.toList_injective
      rw [String.toList_ofList]
      refine (List.map_congr_left fun c hc => ?_).trans (List.map_id text.toList)
      exact char_of_byte (hascii c hc)

/-- A number of two bytes. -/
def number16 (bytes : Bytes) (i : Nat) : Nat :=
  (bytes.getD i 0).toNat + 256 * (bytes.getD (i + 1) 0).toNat

/-- Entries that are stored as they are, with their sizes in the header. -/
def storedEntries : Nat → Bytes → ZipContents
  | 0, _ => .done
  | fuel + 1, bytes =>
      if localHeader.isPrefixOf bytes then
        let name := latin1.decode ((bytes.drop 30).take (number16 bytes 26))
        let data := bytes.drop (30 + number16 bytes 26 + number16 bytes 28)
        let size := number16 bytes 18 + 65536 * number16 bytes 20
        if number16 bytes 6 ≠ 0 ∨ number16 bytes 8 ≠ 0 then .failed
        else if data.length < size then .damaged name
        else .entry name (data.take size) (storedEntries fuel (data.drop size))
      else .done

/-- A reader of archives whose entries are not compressed. -/
def storedZip (bytes : Bytes) (_broken : Bool) : ZipContents := storedEntries bytes.length bytes

theorem storedEntries_of_no_header {bytes : Bytes} (h : ¬ localHeader <+: bytes) (fuel : Nat) :
    storedEntries fuel bytes = .done := by
  cases fuel with
  | zero => rfl
  | succ fuel => exact if_neg (mt List.isPrefixOf_iff_prefix.mp h)

theorem storedZip_listsFromHeaders : ListsFromHeaders storedZip := by
  intro bytes broken h
  unfold storedZip
  rw [storedEntries_of_no_header h]
  rfl

def storedEnv : DocTypeEnv where
  caseTable := asciiCase
  defaultCharset := latin1
  zipInputStream := storedZip

/-- The header of an entry without data. -/
def emptyEntry (name : String) : Bytes :=
  localHeader ++ [20, 0] ++ List.replicate 20 0 ++
    [UInt8.ofNat name.length, 0, 0, 0] ++ latin1.encode name

/-- Its header in the directory of the archive. -/
def directoryEntry (name : String) (offset : UInt8) : Bytes :=
  [0x50, 0x4b, 0x01, 0x02, 20, 0, 20, 0] ++ List.replicate 20 0 ++
    [UInt8.ofNat name.length] ++ List.replicate 13 0 ++ [offset, 0, 0, 0] ++ latin1.encode name

/-- A data file and its signatures, both empty. -/
def smallArchive : Bytes :=
  emptyEntry "a.txt" ++ emptyEntry signaturesName ++
    directoryEntry "a.txt" 0 ++ directoryEntry signaturesName 35 ++
    [0x50, 0x4b, 0x05, 0x06, 0, 0, 0, 0, 2, 0, 2, 0, 120, 0, 0, 0, 88, 0, 0, 0, 0, 0]

/-- Both of its entries are there, and they are not seen. -/
theorem small_archive_unknown :
    (storedEnv.zipInputStream smallArchive false).names = ["a.txt", signaturesName] ∧
      EtsiCades storedEnv.caseTable (storedEnv.zipInputStream smallArchive false).names ∧
      getDocTypeOf storedEnv smallArchive = .UNKNOWN ∧
      ¬ Classified storedEnv.caseTable (storedEnv.zipInputStream smallArchive false).names
        (getDocTypeOf storedEnv smallArchive) := by
  have hnames : (storedEnv.zipInputStream smallArchive false).names =
      ["a.txt", signaturesName] := by decide +kernel
  have hkind : EtsiCades storedEnv.caseTable
      (storedEnv.zipInputStream smallArchive false).names := by
    rw [hnames]
    exact ⟨by decide, by decide, by decide⟩
  have hall : smallArchive.drop 8192 = [] := by decide +kernel
  have hbehind : ¬ localHeader <+: smallArchive.drop 8192 := by
    rw [hall]
    decide
  refine ⟨hnames, hkind, by decide +kernel, fun hclassified => ?_⟩
  have hnone := (unseen_archive_iff storedEnv storedZip_listsFromHeaders hbehind).mp hclassified
  exact hnone.1 hkind

end SigVal.Commons
