import Fieldwise.Bundle.Basic
import Fieldwise.Emission
import Fieldwise.Proofs.FileTree.Directories
import Fieldwise.Proofs.Token.Names

set_option autoImplicit false

/-! # Where bundles belong

A bundle belongs in directories that have the names of its packages, in a file whose name comes from
the settings (`Bundle.relativePath_eq`). The names of packages hold no dot, the name of the file
ends in `.rs`, and the name it is first written under begins with a dot and ends in `.tmp`. So no
two of these are ever the same, whichever bundles they belong to.
-/

namespace Fieldwise

namespace Text

/-! ## Texts without marks -/

/-- A text whose characters all come after the slash. It holds no slash, no dot and no zero. -/
def IsBare (text : List Char) : Prop := ∀ c ∈ text, 47 < c.toNat

theorem IsBare.append {text more : List Char} (h : IsBare text) (hmore : IsBare more) :
    IsBare (text ++ more) := by
  intro c hc
  rcases List.mem_append.mp hc with hc | hc
  · exact h c hc
  · exact hmore c hc

theorem IsBare.cons {c : Char} {text : List Char} (hc : 47 < c.toNat) (h : IsBare text) :
    IsBare (c :: text) := by
  intro x hx
  rcases List.mem_cons.mp hx with rfl | hx
  · exact hc
  · exact h x hx

theorem IsBare.tail {c : Char} {text : List Char} (h : IsBare (c :: text)) : IsBare text :=
  fun x hx => h x (List.mem_cons_of_mem c hx)

theorem IsBare.reverse {text : List Char} (h : IsBare text) : IsBare text.reverse :=
  fun x hx => h x (List.mem_reverse.mp hx)

theorem isBare_nil : IsBare [] := fun x hx => by cases hx

theorem lt_of_isAlphanum {c : Char} (h : c.isAlphanum = true) : 47 < c.toNat := by
  delta Char.isAlphanum Char.isAlpha Char.isUpper Char.isLower Char.isDigit at h
  simp only [Bool.or_eq_true, Bool.and_eq_true, decide_eq_true_eq, UInt32.le_iff_toNat_le,
    ge_iff_le] at h
  change ((65 ≤ c.toNat ∧ c.toNat ≤ 90) ∨ (97 ≤ c.toNat ∧ c.toNat ≤ 122))
    ∨ (48 ≤ c.toNat ∧ c.toNat ≤ 57) at h
  omega

theorem lt_of_isNameContinue {c : Char} (h : isNameContinue c = true) : 47 < c.toNat := by
  unfold isNameContinue at h
  split at h
  · rcases Bool.or_eq_true_iff.mp h with hletter | hunderscore
    · exact lt_of_isAlphanum hletter
    · rw [eq_of_beq hunderscore]
      decide
  · omega

theorem lt_of_isAlphanumeric {c : Char} (h : isAlphanumeric c = true) : 47 < c.toNat := by
  unfold isAlphanumeric at h
  split at h
  · exact lt_of_isAlphanum h
  · omega

/-- A word is bare. -/
theorem isBare_of_isWord {text : List Char} (h : Token.IsWord text) : IsBare text := by
  cases text with
  | nil => exact h.elim
  | cons c rest =>
      intro x hx
      rcases List.mem_cons.mp hx with rfl | hx
      · exact lt_of_isNameContinue (isNameContinue_of_isNameStart h.1)
      · exact lt_of_isNameContinue (h.2 x hx)

/-! ## Snake case -/

/-- A run of lower-case forms that are characters, after the slash. -/
def formInBounds : Nat × Nat × Nat × Nat → Bool
  | (first, last, _, form) => 47 < form && (form + (last - first) < 0xd800
    || (0xdfff < form && form + (last - first) < 0x110000))

theorem lowerForms_inBounds : lowerForms.all formInBounds = true := by
  decide +kernel

theorem lowerFormIn_inBounds {table : List (Nat × Nat × Nat × Nat)}
    (h : table.all formInBounds = true) {n : Nat} (hvalid : n.isValidChar) (hn : 47 < n) :
    (lowerFormIn table n).isValidChar ∧ 47 < lowerFormIn table n := by
  induction table with
  | nil => exact ⟨hvalid, hn⟩
  | cons run rest ih =>
      obtain ⟨first, last, step, form⟩ := run
      rw [List.all_cons, Bool.and_eq_true] at h
      unfold lowerFormIn
      split
      · rename_i hin
        have hbounds := h.1
        simp only [formInBounds, Bool.and_eq_true, Bool.or_eq_true, decide_eq_true_eq]
          at hbounds hin
        unfold Nat.isValidChar
        omega
      · exact ih h.2

theorem toNat_ofNat {n : Nat} (h : n.isValidChar) : (Char.ofNat n).toNat = n := by
  rw [Char.ofNat, dif_pos h]
  unfold Char.ofNatAux Char.toNat
  simp

theorem lt_toLower {c : Char} (h : 47 < c.toNat) : 47 < c.toLower.toNat := by
  unfold Char.toLower
  split
  · rename_i hcapital
    simp only [UInt32.le_iff_toNat_le, ge_iff_le] at hcapital
    change 65 ≤ c.toNat ∧ c.toNat ≤ 90 at hcapital
    show 47 < (c.val + 32).toNat
    rw [UInt32.toNat_add]
    change 47 < (c.toNat + 32) % 4294967296
    omega
  · exact h

theorem isBare_toLower {c : Char} (h : 47 < c.toNat) : IsBare (toLower c) := by
  intro x hx
  unfold toLower at hx
  split at hx
  · rw [List.mem_singleton.mp hx]
    exact lt_toLower h
  · split at hx
    · rcases List.mem_pair.mp hx with rfl | rfl <;> decide
    · have hself : c.toNat.isValidChar := c.valid
      obtain ⟨hvalid, hlower⟩ := lowerFormIn_inBounds lowerForms_inBounds hself h
      rw [List.mem_singleton.mp hx, toNat_ofNat hvalid]
      exact hlower

theorem isBare_lowerWord {word : List Char} (h : IsBare word) : IsBare (lowerWord word) := by
  fun_induction lowerWord word with
  | case1 => exact h
  | case2 c hsigma =>
      intro x hx
      rw [List.mem_singleton.mp hx]
      decide
  | case3 c hsigma => exact isBare_toLower (h c (by simp))
  | case4 c rest hrest ih =>
      exact (isBare_toLower (h c (by simp))).append (ih fun x hx => h x (by simp [hx]))

/-- The runs of a text hold what is kept of it. -/
theorem keep_of_mem_runsFrom {keep : Char → Bool} {run text found : List Char}
    (hrun : ∀ c ∈ run, keep c = true) (h : found ∈ runsFrom keep run text) :
    ∀ c ∈ found, keep c = true := by
  induction text generalizing run with
  | nil =>
      unfold runsFrom at h
      split at h
      · cases h
      · rw [List.mem_singleton.mp h]
        exact fun c hc => hrun c (List.mem_reverse.mp hc)
  | cons c rest ih =>
      have hnone : ∀ c ∈ ([] : List Char), keep c = true := fun c hc => by cases hc
      unfold runsFrom at h
      split at h
      · rename_i hkeep
        refine ih (fun x hx => ?_) h
        rcases List.mem_cons.mp hx with rfl | hx
        · exact hkeep
        · exact hrun x hx
      · split at h
        · exact ih hnone h
        · rcases List.mem_cons.mp h with rfl | h
          · exact fun x hx => hrun x (List.mem_reverse.mp hx)
          · exact ih hnone h

/-- The words of a run hold what the run holds. -/
theorem isBare_of_mem_caseWords {now : WordCase} {word run found : List Char} (hword : IsBare word)
    (hrun : IsBare run) (h : found ∈ caseWords now word run) : IsBare found := by
  fun_induction caseWords now word run with
  | case1 => cases h
  | case2 now word c =>
      rw [List.mem_singleton.mp h]
      exact (hword.cons (hrun c (by simp))).reverse
  | case3 now word c next rest hlower ih =>
      rcases List.mem_cons.mp h with rfl | h
      · exact (hword.cons (hrun c (by simp))).reverse
      · exact ih isBare_nil hrun.tail h
  | case4 now word c next rest hlower hupper ih =>
      rcases List.mem_cons.mp h with rfl | h
      · exact hword.reverse
      · exact ih (isBare_nil.cons (hrun c (by simp))) hrun.tail h
  | case5 now word c next rest hlower hupper ih =>
      exact ih (hword.cons (hrun c (by simp))) hrun.tail h

/-- **Snake case is bare**, whatever the text is. -/
theorem isBare_snakeCase (text : String) : IsBare (snakeCase text).toList := by
  intro c hc
  rcases mem_intercalate hc with hunderscore | ⟨word, hword, hc⟩
  · rw [List.mem_singleton.mp hunderscore]
    decide
  · obtain ⟨letters, hletters, rfl⟩ := List.mem_map.mp hword
    obtain ⟨run, hrun, hletters⟩ := List.mem_flatMap.mp hletters
    have hnone : ∀ c ∈ ([] : List Char), isAlphanumeric c = true := fun c hc => by cases hc
    have hbare : IsBare run := fun x hx =>
      lt_of_isAlphanumeric (keep_of_mem_runsFrom hnone hrun x hx)
    rw [String.toList_ofList] at hc
    exact isBare_lowerWord (isBare_of_mem_caseWords isBare_nil hbare hletters) c hc

end Text

open Text FileTree Token

/-! ## Names that differ -/

theorem isName_of_isBare {text : String} (h : IsBare text.toList) (hempty : text ≠ "") :
    IsName text where
  slash hslash := absurd (h _ hslash) (by decide)
  idle := by
    have hdot : text ≠ "." := by
      rintro rfl
      exact absurd (h '.' (by decide)) (by decide)
    simp [Location.isIdle, hempty, hdot]
  parent := by
    rintro rfl
    exact absurd (h '.' (by decide)) (by decide)

/-- A bare text that is short enough is a name for files and directories. -/
theorem fitsAsName_of_isBare {text : String} (h : IsBare text.toList) (hempty : text ≠ "")
    (hshort : text.utf8ByteSize ≤ longestName) : FitsAsName text where
  toIsName := isName_of_isBare h hempty
  zero hzero := absurd (h _ hzero) (by decide)
  short := hshort

/-- A text of at least three characters is a name if it holds no slash. -/
theorem isName_of_length {text : String} (hlength : 2 < text.toList.length)
    (hslash : '/' ∉ text.toList) : IsName text where
  slash := hslash
  idle := by
    have hempty : text ≠ "" := by
      rintro rfl
      exact absurd hlength (by decide)
    have hdot : text ≠ "." := by
      rintro rfl
      exact absurd hlength (by decide)
    simp [Location.isIdle, hempty, hdot]
  parent := by
    rintro rfl
    exact absurd hlength (by decide)

/-- A file system takes it if it holds no zero either and is not too long. -/
theorem fitsAsName_of_length {text : String} (hlength : 2 < text.toList.length)
    (hslash : '/' ∉ text.toList) (hzero : Char.ofNat 0 ∉ text.toList)
    (hshort : text.utf8ByteSize ≤ longestName) : FitsAsName text where
  toIsName := isName_of_length hlength hslash
  zero := hzero
  short := hshort

/-- A name without the mark of a raw name is the text of the name. -/
theorem dropRawMark_written {n : Name} (h : n.Lexical) : dropRawMark n.written = n.text := by
  obtain ⟨raw, text⟩ := n
  cases raw with
  | true => simp [Name.written, dropRawMark]
  | false =>
      show dropRawMark text = text
      unfold dropRawMark
      split
      · -- no word goes on with the mark of a raw name
        rename_i rest hlist
        have hword : IsWord text.toList := h.word
        rw [hlist] at hword
        exact absurd (hword.2 '#' (by simp)) (by decide)
      · rfl

/-- The mark that parts the ending of a file from its name is in no bare text. -/
theorem not_isBare_of_dot {text : List Char} (h : '.' ∈ text) : ¬ IsBare text :=
  fun hbare => absurd (hbare _ h) (by decide)

theorem not_isBare_fileName (settings : Settings) : ¬ IsBare settings.fileName.toList :=
  not_isBare_of_dot (by simp [Settings.fileName])

theorem not_isBare_temporaryName (fileName : String) : ¬ IsBare (temporaryName fileName).toList :=
  not_isBare_of_dot (by simp [temporaryName])

/-- No file is called what a file is first written under. -/
theorem temporaryName_ne_fileName (fileName : String) (settings : Settings) :
    temporaryName fileName ≠ settings.fileName := by
  intro heq
  have htemporary : (temporaryName fileName).toList.getLast? = some 'p' := by
    rw [temporaryName, String.toList_append, List.getLast?_append_of_ne_nil _ (by decide)]
    rfl
  have hfile : settings.fileName.toList.getLast? = some 's' := by
    rw [Settings.fileName, String.toList_append, List.getLast?_append_of_ne_nil _ (by decide)]
    rfl
  rw [heq, hfile] at htemporary
  exact absurd htemporary (by decide)

namespace Settings

variable (settings : Settings)

/-- The name of the file holds neither a slash nor a zero. -/
theorem not_mem_fileName {c : Char} (hc : c.toNat ≤ 47) (hdot : c ≠ '.') :
    c ∉ settings.fileName.toList := by
  intro hmem
  rw [fileName, String.toList_append] at hmem
  rcases List.mem_append.mp hmem with hsnake | hending
  · exact absurd (isBare_snakeCase _ c hsnake) (by omega)
  · have hcases : c = '.' ∨ c = 'r' ∨ c = 's' := by simpa using hending
    rcases hcases with rfl | rfl | rfl
    · exact hdot rfl
    · exact absurd hc (by decide)
    · exact absurd hc (by decide)

/-- Nor does the name that it is first written under. -/
theorem not_mem_temporaryName {c : Char} (hc : c.toNat ≤ 47) (hdot : c ≠ '.') :
    c ∉ (temporaryName settings.fileName).toList := by
  have hfile := settings.not_mem_fileName hc hdot
  have hending : c ∉ ".tmp".toList := by
    intro hmem
    have hcases : c = '.' ∨ c = 't' ∨ c = 'm' ∨ c = 'p' := by simpa using hmem
    rcases hcases with rfl | rfl | rfl | rfl
    · exact hdot rfl
    all_goals exact absurd hc (by decide)
  simp only [temporaryName, String.toList_append, List.mem_append, not_or]
  exact ⟨⟨by simpa using hdot, hfile⟩, hending⟩

/-- The name of the file is a name, however long it is. -/
theorem isName_fileName : IsName settings.fileName :=
  isName_of_length (by simp [fileName]) (settings.not_mem_fileName (by decide) (by decide))

theorem fits_fileName (hshort : (temporaryName settings.fileName).utf8ByteSize ≤ longestName) :
    FitsAsName settings.fileName := by
  have hlength : 2 < settings.fileName.toList.length := by simp [fileName]
  rw [temporaryName, String.utf8ByteSize_append, String.utf8ByteSize_append] at hshort
  exact fitsAsName_of_length hlength (settings.not_mem_fileName (by decide) (by decide))
    (settings.not_mem_fileName (by decide) (by decide)) (by omega)

theorem isName_temporaryName : IsName (temporaryName settings.fileName) :=
  isName_of_length (by simp [temporaryName])
    (settings.not_mem_temporaryName (by decide) (by decide))

theorem fits_temporaryName
    (hshort : (temporaryName settings.fileName).utf8ByteSize ≤ longestName) :
    FitsAsName (temporaryName settings.fileName) where
  toIsName := settings.isName_temporaryName
  zero := settings.not_mem_temporaryName (by decide) (by decide)
  short := hshort

end Settings

namespace Bundle

/-- The directories that lead to the file of a bundle. -/
def directories (b : Bundle) : List String := b.package.segments.map dropRawMark

/-- The names that lead to the file of a bundle. -/
def names (b : Bundle) : List String := b.directories ++ [b.fileName]

/-- A bundle whose place is given by names: those of its packages are names that source text can
hold, and its file name comes from settings. -/
structure Named (b : Bundle) : Prop where
  package : ∀ segment ∈ b.package.segments, ∃ n : Name, n.Lexical ∧ segment = n.written
  fileName : ∃ settings : Settings, b.fileName = settings.fileName

namespace Named

variable {b : Bundle}

/-- The directories of a bundle are words. -/
theorem isWord_directory (h : b.Named) {name : String} (hname : name ∈ b.directories) :
    IsWord name.toList := by
  obtain ⟨segment, hsegment, rfl⟩ := List.mem_map.mp hname
  obtain ⟨n, hn, rfl⟩ := h.package segment hsegment
  rw [dropRawMark_written hn]
  exact hn.word

theorem isBare_directory (h : b.Named) {name : String} (hname : name ∈ b.directories) :
    IsBare name.toList := isBare_of_isWord (h.isWord_directory hname)

theorem directory_ne_empty (h : b.Named) {name : String} (hname : name ∈ b.directories) :
    name ≠ "" := by
  rintro rfl
  exact h.isWord_directory hname

/-- All that leads to the file of a bundle are names, and so is that of the file. -/
theorem isName_names (h : b.Named) : ∀ name ∈ b.names, IsName name := by
  intro name hname
  rcases List.mem_append.mp hname with hdirectory | hfile
  · exact isName_of_isBare (h.isBare_directory hdirectory) (h.directory_ne_empty hdirectory)
  · obtain ⟨settings, hsettings⟩ := h.fileName
    rw [List.mem_singleton.mp hfile, hsettings]
    exact settings.isName_fileName

end Named

/-- A bundle whose file can be stored: its place is given by names, and all of these are short
enough for a file system. -/
structure Storable (b : Bundle) : Prop where
  package : ∀ segment ∈ b.package.segments, ∃ n : Name, n.Lexical ∧ segment = n.written
  fileName : ∃ settings : Settings, b.fileName = settings.fileName
  shortDirectories : ∀ name ∈ b.directories, name.utf8ByteSize ≤ longestName
  shortFile : (temporaryName b.fileName).utf8ByteSize ≤ longestName
  shortPath : (Location.ofNames b.directories).text.utf8ByteSize < locationLimit

namespace Storable

variable {b : Bundle}

theorem named (h : b.Storable) : b.Named := ⟨h.package, h.fileName⟩

theorem fits_directories (h : b.Storable) : FitsAsNames b.directories where
  each name hname := fitsAsName_of_isBare (h.named.isBare_directory hname)
    (h.named.directory_ne_empty hname) (h.shortDirectories name hname)
  short := h.shortPath

theorem fits_fileName (h : b.Storable) : FitsAsName b.fileName := by
  obtain ⟨settings, hsettings⟩ := h.fileName
  have hshort := h.shortFile
  rw [hsettings] at hshort ⊢
  exact settings.fits_fileName hshort

theorem fits_temporaryName (h : b.Storable) : FitsAsName (temporaryName b.fileName) := by
  obtain ⟨settings, hsettings⟩ := h.fileName
  have hshort := h.shortFile
  rw [hsettings] at hshort ⊢
  exact settings.fits_temporaryName hshort

end Storable

/-- Going into one directory after another. -/
theorem foldl_child {names segments : List String} (hnames : ∀ n ∈ names, IsName n)
    (hsegments : ∀ n ∈ segments.map dropRawMark, IsName n) :
    segments.foldl (fun l s => l.child (dropRawMark s)) (Location.ofNames names)
      = Location.ofNames (names ++ segments.map dropRawMark) := by
  induction segments generalizing names with
  | nil => simp
  | cons first rest ih =>
      have hfirst : IsName (dropRawMark first) := hsegments _ (by simp)
      have hmore : ∀ n ∈ names ++ [dropRawMark first], IsName n := by
        intro n hn
        rcases List.mem_append.mp hn with hn | hn
        · exact hnames n hn
        · rw [List.mem_singleton.mp hn]
          exact hfirst
      rw [List.foldl_cons, Location.child_ofNames hnames hfirst,
        ih hmore fun n hn => hsegments n (by simp [List.mem_map.mp hn])]
      simp

/-- **A bundle belongs in the directories of its packages.** -/
theorem relativePath_eq {b : Bundle} (h : b.Named) : b.relativePath = Location.ofNames b.names := by
  have hdirectories : ∀ name ∈ b.directories, IsName name := fun name hname =>
    h.isName_names name (List.mem_append_left _ hname)
  have hfold : b.package.segments.foldl (fun l s => l.child (dropRawMark s)) (Location.ofNames [])
      = Location.ofNames ([] ++ b.directories) := foldl_child (by simp) hdirectories
  show (b.package.segments.foldl (fun l s => l.child (dropRawMark s)) (Location.ofNames [])).child
    b.fileName = _
  rw [hfold, List.nil_append,
    Location.child_ofNames hdirectories (h.isName_names b.fileName (by simp [names]))]
  rfl

theorem components_relativePath {b : Bundle} (h : b.Named) :
    b.relativePath.components = b.names.map .name := by
  rw [relativePath_eq h]
  exact Location.components_ofNames (by simp [names]) h.isName_names

end Bundle

/-- The directory of a package is the location of its names, if it has any. -/
theorem OutputDirectory.packageDirectory?_ofNames {directories : List String} {fileName : String}
    (h : ∀ n ∈ directories ++ [fileName], IsName n) :
    packageDirectory? (.ofNames (directories ++ [fileName]))
      = if directories = [] then none else some (.ofNames directories) := by
  have hinit : ∀ n ∈ directories, IsName n := fun n hn => h n (by simp [hn])
  unfold packageDirectory?
  rw [Location.parent?_ofNames h]
  dsimp only
  by_cases hnil : directories = []
  · subst hnil
    rfl
  · rw [if_neg (Location.text_ofNames_ne_empty hnil hinit), if_neg hnil]

end Fieldwise
