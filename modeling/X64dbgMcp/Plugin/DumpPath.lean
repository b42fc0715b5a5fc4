import X64dbgMcp.Plugin.DumpMemory

/-!
# The grammar of dump paths

A dump goes to an absolute path whose components are ordinary file names: no device, no
alternate stream, nothing that Windows would rewrite.  The check goes through the path
character by character, and refuses more names than the grammar does.
-/

namespace X64dbgMcp.Plugin.Dump

/-! ## The loop over the characters -/

/-- What is checked where a component ends. -/
def closesComponent (part : WidePath) : Bool :=
  let stem := part.takeWhile fun c => c != 0x2e
  !part.isEmpty && part.getLast? != some 0x2e && part.getLast? != some 0x20 &&
    !(["CON", "PRN", "AUX", "NUL", "CONIN$", "CONOUT$"].any (isReserved stem)) &&
    !(stem.length == 4 &&
      (["COM1", "COM2", "COM3", "COM4", "COM5", "COM6", "COM7", "COM8", "COM9", "LPT1", "LPT2",
          "LPT3", "LPT4", "LPT5", "LPT6", "LPT7", "LPT8", "LPT9"].any (isReserved stem) ||
        stem.getLast? == some 0xb9 || stem.getLast? == some 0xb2 || stem.getLast? == some 0xb3))

/-- The loop, with the component so far. -/
def scanComponents (part : WidePath) : WidePath → Bool
  | [] => closesComponent part
  | c :: rest =>
      if c = 0x5c then closesComponent part && scanComponents [] rest
      else if forbiddenInPath c then false
      else scanComponents (part ++ [c]) rest

theorem validDumpComponent_eq (part : WidePath) :
    validDumpComponent part = (!part.any forbiddenInPath && closesComponent part) := by
  simp only [validDumpComponent, closesComponent, Bool.and_assoc]

/-- A path is refused for a character of its first component. -/
theorem all_splitOn_of_forbidden {part rest : WidePath} (inside : 0x5c ∉ part)
    (forbidden : part.any forbiddenInPath = true) :
    ((part ++ rest).splitOn 0x5c).all validDumpComponent = false := by
  have refused : ∀ more, validDumpComponent (part ++ more) = false := by
    intro more
    rw [validDumpComponent_eq, List.any_append, forbidden]
    rfl
  by_cases separated : 0x5c ∈ rest
  · rcases List.eq_append_cons_of_mem separated with ⟨front, back, rfl, free⟩
    have whole : 0x5c ∉ part ++ front := fun member =>
      (List.mem_append.mp member).elim inside free
    rw [← List.append_assoc, List.splitOn_append_cons_self_of_not_mem whole, List.all_cons,
      refused]
    rfl
  · have whole : 0x5c ∉ part ++ rest := fun member =>
      (List.mem_append.mp member).elim inside separated
    rw [List.splitOn_eq_singleton whole, List.all_cons, refused]
    rfl

/-- The loop checks every component. -/
theorem scanComponents_eq {part : WidePath} (inside : 0x5c ∉ part)
    (clean : part.any forbiddenInPath = false) (rest : WidePath) :
    scanComponents part rest = ((part ++ rest).splitOn 0x5c).all validDumpComponent := by
  induction rest generalizing part with
  | nil =>
      rw [List.append_nil, List.splitOn_eq_singleton inside, List.all_cons, List.all_nil,
        Bool.and_true, validDumpComponent_eq, clean]
      rfl
  | cons c rest ih =>
      rw [scanComponents]
      split_ifs with separator forbidden
      · rw [separator, List.splitOn_append_cons_self_of_not_mem inside, List.all_cons,
          validDumpComponent_eq, clean, ih List.not_mem_nil rfl, List.nil_append]
        rfl
      · have longer : 0x5c ∉ part ++ [c] := by
          rw [List.mem_append, List.mem_singleton, not_or]
          exact ⟨inside, Ne.symm separator⟩
        rw [← List.singleton_append, ← List.append_assoc, all_splitOn_of_forbidden longer]
        rw [List.any_append, List.any_cons, forbidden, Bool.true_or, Bool.or_true]
      · have longer : 0x5c ∉ part ++ [c] := by
          rw [List.mem_append, List.mem_singleton, not_or]
          exact ⟨inside, Ne.symm separator⟩
        rw [ih longer, List.append_assoc, List.singleton_append]
        rw [List.any_append, clean, List.any_cons, List.any_nil, Bool.or_false, Bool.false_or]
        exact Bool.not_eq_true _ ▸ forbidden

/-- The check of a path by its loop. -/
theorem validDumpPath_eq {path rest : WidePath} {drive : UInt16}
    (rooted : path = drive :: 0x3a :: 0x5c :: rest) :
    validDumpPath path =
      (4 ≤ path.length && path.length < 32700 &&
        (0x41 ≤ drive && drive ≤ 0x5a || 0x61 ≤ drive && drive ≤ 0x7a) &&
        scanComponents [] rest) := by
  rw [scanComponents_eq List.not_mem_nil rfl, List.nil_append, rooted, validDumpPath]

/-! ## The grammar -/

/-- An ASCII letter in upper case. -/
def upper (c : UInt16) : UInt16 :=
  if 0x61 ≤ c && c ≤ 0x7a then c - 0x20 else c

/-- The characters that no file name has, besides control characters. -/
def separators : WidePath :=
  wide ":/\"<>|?*"

/-- The devices without a number. -/
def plainDevices : List String :=
  ["CON", "PRN", "AUX", "NUL", "CONIN$", "CONOUT$"]

/-- The numbered devices. -/
def numberedDevices : List String :=
  ["COM1", "COM2", "COM3", "COM4", "COM5", "COM6", "COM7", "COM8", "COM9", "LPT1", "LPT2", "LPT3",
    "LPT4", "LPT5", "LPT6", "LPT7", "LPT8", "LPT9"]

/-- The same with the digits that Windows takes for numbers. -/
def superscriptDevices : List String :=
  ["COM¹", "COM²", "COM³", "LPT¹", "LPT²", "LPT³"]

/-- The names that Windows reserves. -/
def deviceNames : List String :=
  plainDevices ++ numberedDevices ++ superscriptDevices

/-- What stands before the first dot. -/
def stemOf (part : WidePath) : WidePath :=
  part.takeWhile fun c => c != 0x2e

/-- A name that Windows keeps as it is. -/
structure IsFileName (part : WidePath) : Prop where
  nonempty : part ≠ []
  clean : ∀ c ∈ part, ¬ (c < 0x20 ∨ c = 0x7f ∨ c ∈ separators)
  closed : part.getLast? ≠ some 0x2e ∧ part.getLast? ≠ some 0x20
  noDevice : ∀ name ∈ deviceNames, (stemOf part).map upper ≠ wide name

/-- The names of a path behind its drive. -/
def componentsOf (path : WidePath) : List WidePath :=
  (path.drop 3).splitOn 0x5c

/-- The paths that a dump can go to. -/
structure DumpPathGrammar (path : WidePath) : Prop where
  long : 4 ≤ path.length
  short : path.length ≤ 32699
  drive : ∃ letter, path.head? = some letter ∧
    (0x41 ≤ letter ∧ letter ≤ 0x5a ∨ 0x61 ≤ letter ∧ letter ≤ 0x7a)
  colon : path[1]? = some 0x3a
  root : path[2]? = some 0x5c
  components : ∀ part ∈ componentsOf path, IsFileName part

/-- The last character is a superscript one, two or three. -/
def EndsSuperscript (stem : WidePath) : Prop :=
  stem.getLast? = some 0xb9 ∨ stem.getLast? = some 0xb2 ∨ stem.getLast? = some 0xb3

/-- Four characters before the first dot, the last of them a superscript, and no serial or
parallel port. -/
def StrayStem (part : WidePath) : Prop :=
  (stemOf part).length = 4 ∧ EndsSuperscript (stemOf part) ∧
    ((stemOf part).take 3).map upper ≠ wide "COM" ∧ ((stemOf part).take 3).map upper ≠ wide "LPT"

/-! ## What is refused besides -/

theorem forbiddenInPath_eq_true {c : UInt16} :
    forbiddenInPath c = true ↔ c < 0x20 ∨ c = 0x7f ∨ c ∈ separators := by
  have members : separators = [0x3a, 0x2f, 0x22, 0x3c, 0x3e, 0x7c, 0x3f, 0x2a] := by decide
  rw [members]
  simp only [forbiddenInPath, Bool.or_eq_true, decide_eq_true_eq, beq_iff_eq, List.mem_cons,
    List.not_mem_nil, or_false, or_assoc]

theorem isReserved_eq_true {stem : WidePath} {name : String} :
    isReserved stem name = true ↔ stem.map upper = wide name := by
  rw [isReserved, beq_iff_eq]
  rfl

/-- Only letters are changed. -/
theorem upper_eq_iff {c mark : UInt16} (beyond : 0x7a < mark) : upper c = mark ↔ c = mark := by
  rw [upper]
  split_ifs with letter
  · rw [Bool.and_eq_true, decide_eq_true_eq, decide_eq_true_eq, UInt16.le_iff_toNat_le,
      UInt16.le_iff_toNat_le] at letter
    rw [UInt16.lt_iff_toNat_lt] at beyond
    have low : (0x20 : UInt16) ≤ c := UInt16.le_iff_toNat_le.mpr (Nat.le_trans (by decide) letter.1)
    have high : c.toNat < mark.toNat := Nat.lt_of_le_of_lt letter.2 beyond
    have lower : (c - 0x20).toNat < mark.toNat := by
      rw [UInt16.toNat_sub_of_le _ _ low]
      exact Nat.lt_of_le_of_lt (Nat.sub_le _ _) high
    constructor
    · rintro rfl
      exact absurd lower (Nat.lt_irrefl _)
    · rintro rfl
      exact absurd high (Nat.lt_irrefl _)
  · exact Iff.rfl

/-- A port with a superscript for its number. -/
theorem map_upper_port {stem port : WidePath} {mark : UInt16} (three : port.length = 3)
    (beyond : 0x7a < mark) :
    stem.map upper = port ++ [mark] ↔
      stem.length = 4 ∧ stem.getLast? = some mark ∧ (stem.take 3).map upper = port := by
  rcases List.eq_nil_or_concat stem with rfl | ⟨front, last, rfl⟩
  · exact iff_of_false (by simp) (by simp)
  rw [List.concat_eq_append, List.map_append, List.map_singleton, List.length_append,
    List.length_singleton, List.getLast?_concat, Option.some.injEq, List.append_singleton_inj,
    upper_eq_iff beyond]
  constructor
  · rintro ⟨rfl, rfl⟩
    rw [List.length_map] at three
    exact ⟨by rw [three], rfl, by rw [List.take_left' three]⟩
  · rintro ⟨four, rfl, same⟩
    have length : front.length = 3 := Nat.add_right_cancel four
    rw [List.take_left' length] at same
    exact ⟨same, rfl⟩

/-- The ports with a superscript for their number. -/
theorem superscriptPort_iff (stem : WidePath) :
    (∃ name ∈ superscriptDevices, stem.map upper = wide name) ↔
      stem.length = 4 ∧ EndsSuperscript stem ∧
        ((stem.take 3).map upper = wide "COM" ∨ (stem.take 3).map upper = wide "LPT") := by
  have com := fun mark beyond => @map_upper_port stem (wide "COM") mark rfl beyond
  have lpt := fun mark beyond => @map_upper_port stem (wide "LPT") mark rfl beyond
  constructor
  · rintro ⟨name, member, same⟩
    simp only [superscriptDevices, List.mem_cons, List.not_mem_nil, or_false] at member
    rcases member with rfl | rfl | rfl | rfl | rfl | rfl
    · rcases (com 0xb9 (by decide)).mp same with ⟨four, last, port⟩
      exact ⟨four, .inl last, .inl port⟩
    · rcases (com 0xb2 (by decide)).mp same with ⟨four, last, port⟩
      exact ⟨four, .inr (.inl last), .inl port⟩
    · rcases (com 0xb3 (by decide)).mp same with ⟨four, last, port⟩
      exact ⟨four, .inr (.inr last), .inl port⟩
    · rcases (lpt 0xb9 (by decide)).mp same with ⟨four, last, port⟩
      exact ⟨four, .inl last, .inr port⟩
    · rcases (lpt 0xb2 (by decide)).mp same with ⟨four, last, port⟩
      exact ⟨four, .inr (.inl last), .inr port⟩
    · rcases (lpt 0xb3 (by decide)).mp same with ⟨four, last, port⟩
      exact ⟨four, .inr (.inr last), .inr port⟩
  · rintro ⟨four, last | last | last, port | port⟩
    · exact ⟨"COM¹", by decide, (com 0xb9 (by decide)).mpr ⟨four, last, port⟩⟩
    · exact ⟨"LPT¹", by decide, (lpt 0xb9 (by decide)).mpr ⟨four, last, port⟩⟩
    · exact ⟨"COM²", by decide, (com 0xb2 (by decide)).mpr ⟨four, last, port⟩⟩
    · exact ⟨"LPT²", by decide, (lpt 0xb2 (by decide)).mpr ⟨four, last, port⟩⟩
    · exact ⟨"COM³", by decide, (com 0xb3 (by decide)).mpr ⟨four, last, port⟩⟩
    · exact ⟨"LPT³", by decide, (lpt 0xb3 (by decide)).mpr ⟨four, last, port⟩⟩

/-- A component that passes has the name of a file and no stray stem. -/
theorem validDumpComponent_iff (part : WidePath) :
    validDumpComponent part = true ↔ IsFileName part ∧ ¬ StrayStem part := by
  let stem := stemOf part
  have clean : part.any forbiddenInPath = false ↔
      ∀ c ∈ part, ¬ (c < 0x20 ∨ c = 0x7f ∨ c ∈ separators) := by
    simp only [List.any_eq_false, forbiddenInPath_eq_true]
  have reserved : ∀ names : List String, names.any (isReserved stem) = false ↔
      ∀ name ∈ names, stem.map upper ≠ wide name := by
    intro names
    simp only [List.any_eq_false, isReserved_eq_true, Ne]
  -- the guard of the numbered devices says what their names say
  have numbered : (stem.length = 4 → ∀ name ∈ numberedDevices, stem.map upper ≠ wide name) ↔
      ∀ name ∈ numberedDevices, stem.map upper ≠ wide name := by
    have four : ∀ name ∈ numberedDevices, (wide name).length = 4 := by decide
    refine ⟨fun others name member same => ?_, fun others _ => others⟩
    have length := congrArg List.length same
    rw [List.length_map, four name member] at length
    exact others length name member same
  have superscript : (stem.length = 4 → ¬ EndsSuperscript stem) ↔
      (∀ name ∈ superscriptDevices, stem.map upper ≠ wide name) ∧ ¬ StrayStem part := by
    have ports := superscriptPort_iff stem
    constructor
    · intro none_
      refine ⟨fun name member same => ?_, fun stray => none_ stray.1 stray.2.1⟩
      rcases ports.mp ⟨name, member, same⟩ with ⟨length, ends, -⟩
      exact none_ length ends
    · rintro ⟨others, usual⟩ length ends
      refine usual ⟨length, ends, ?_⟩
      rw [← not_or]
      intro port
      rcases ports.mpr ⟨length, ends, port⟩ with ⟨name, member, same⟩
      exact others name member same
  have passes : validDumpComponent part = true ↔
      part.any forbiddenInPath = false ∧ part ≠ [] ∧
        (part.getLast? ≠ some 0x2e ∧ part.getLast? ≠ some 0x20) ∧
        plainDevices.any (isReserved stem) = false ∧
        (stem.length = 4 → numberedDevices.any (isReserved stem) = false) ∧
        (stem.length = 4 → ¬ EndsSuperscript stem) := by
    rw [validDumpComponent_eq]
    change (!part.any forbiddenInPath && (!part.isEmpty && part.getLast? != some 0x2e &&
      part.getLast? != some 0x20 && !plainDevices.any (isReserved stem) &&
      !(stem.length == 4 && (numberedDevices.any (isReserved stem) ||
        stem.getLast? == some 0xb9 || stem.getLast? == some 0xb2 ||
        stem.getLast? == some 0xb3)))) = true ↔ _
    simp only [Bool.and_eq_true, Bool.not_eq_true', bne_iff_ne, Bool.and_eq_false_imp, beq_iff_eq,
      List.isEmpty_eq_false_iff, Bool.or_eq_false_iff, beq_eq_false_iff_ne, EndsSuperscript, not_or,
      imp_and, and_assoc]
  rw [passes, clean, reserved, reserved, numbered, superscript]
  constructor
  · rintro ⟨isClean, nonempty, closed, plain, numbers, superscripts, usual⟩
    refine ⟨⟨nonempty, isClean, closed, ?_⟩, usual⟩
    exact List.forall_mem_append.mpr ⟨List.forall_mem_append.mpr ⟨plain, numbers⟩, superscripts⟩
  · rintro ⟨⟨nonempty, isClean, closed, noDevice⟩, usual⟩
    rcases List.forall_mem_append.mp noDevice with ⟨others, superscripts⟩
    rcases List.forall_mem_append.mp others with ⟨plain, numbers⟩
    exact ⟨isClean, nonempty, closed, plain, numbers, superscripts, usual⟩

/-! ## Paths -/

/-- A path passes when it is in the grammar and no component has a stray stem. -/
theorem validDumpPath_iff (path : WidePath) :
    validDumpPath path = true ↔
      DumpPathGrammar path ∧ ∀ part ∈ componentsOf path, ¬ StrayStem part := by
  constructor
  · intro valid
    unfold validDumpPath at valid
    split at valid
    · rename_i drive rest
      simp only [Bool.and_eq_true, Bool.or_eq_true, decide_eq_true_eq, List.all_eq_true] at valid
      rcases valid with ⟨⟨⟨long, short⟩, letter⟩, parts⟩
      refine ⟨⟨long, Nat.le_of_lt_succ short, ⟨drive, rfl, letter⟩, rfl, rfl, ?_⟩, ?_⟩
      · exact fun part member => ((validDumpComponent_iff part).mp (parts part member)).1
      · exact fun part member => ((validDumpComponent_iff part).mp (parts part member)).2
    · cases valid
  · rintro ⟨grammar, usual⟩
    rcases path with _ | ⟨drive, _ | ⟨colon, _ | ⟨root, rest⟩⟩⟩
    · cases grammar.colon
    · cases grammar.colon
    · cases grammar.root
    · cases grammar.colon
      cases grammar.root
      rcases grammar.drive with ⟨_, ⟨⟩, letter⟩
      rw [validDumpPath]
      simp only [Bool.and_eq_true, Bool.or_eq_true, decide_eq_true_eq, List.all_eq_true]
      refine ⟨⟨⟨grammar.long, Nat.lt_succ_of_le grammar.short⟩, letter⟩, ?_⟩
      intro part member
      exact (validDumpComponent_iff part).mpr ⟨grammar.components part member, usual part member⟩

/-- The check of a path is its grammar exactly when the path is outside of the grammar or has
no stray stem. -/
theorem validDumpPath_agrees_iff (path : WidePath) :
    (validDumpPath path = true ↔ DumpPathGrammar path) ↔
      (DumpPathGrammar path → ∀ part ∈ componentsOf path, ¬ StrayStem part) := by
  rw [validDumpPath_iff]
  exact ⟨fun same grammar => (same.mpr grammar).2, fun usual => and_iff_left_of_imp usual⟩

/-- A name that ends in a superscript is refused although it is no port. -/
theorem ordinary_name_refused :
    DumpPathGrammar (wide "C:\\abc¹") ∧ validDumpPath (wide "C:\\abc¹") = false := by
  refine ⟨⟨by decide, by decide, ⟨0x43, by decide, by decide⟩, by decide, by decide, ?_⟩, by decide⟩
  have single : componentsOf (wide "C:\\abc¹") = [wide "abc¹"] := by decide
  have clean : (wide "abc¹").all
      (fun c => decide (¬ (c < 0x20 ∨ c = 0x7f ∨ c ∈ separators))) = true := by
    decide
  rw [single, List.forall_mem_singleton]
  exact ⟨by decide, fun c member => of_decide_eq_true (List.all_eq_true.mp clean c member),
    by decide, by decide⟩

end X64dbgMcp.Plugin.Dump
