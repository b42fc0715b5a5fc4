import X64dbgMcp.Settings.ProfileScan

/-!
# The profile that is written and the profile that is read

Setting the current profile exchanges the content of one line.  The reader takes the
first profile of that name, ignoring case and the blanks around the value; the writer
takes the last section of that name as it stands, `SETTINGS` itself included.  Where the
two choose the same section, what has been written is read back.
-/

namespace X64dbgMcp.Settings

open Text

variable {text requestedProfile canonical value : List UInt8} {line : Line}

/-! ## The line that is written -/

/-- Nothing that trimming takes away at the end matters to it. -/
theorem trim_rdropWhile (value : List UInt8) : trim (value.rdropWhile isTrailing) = trim value := by
  induction value using List.reverseRecOn with
  | nil => rfl
  | append_singleton value last ih =>
      by_cases trailing : isTrailing last = true
      · rw [List.rdropWhile_concat_pos _ _ _ trailing, trim_concat trailing, ih]
      · rw [List.rdropWhile_concat_neg _ _ _ trailing]

theorem trim_eq_self_of_equalInsensitive (same : equalInsensitive value (trim value) = true) :
    trim value = value := by
  have length := length_of_equalInsensitive same
  have stripped : (value.dropWhile isBlank).length = value.length :=
    le_antisymm (List.dropWhile_suffix isBlank).length_le
      (length ▸ (List.rdropWhile_prefix isTrailing _).length_le)
  have solid := (List.dropWhile_suffix isBlank).eq_of_length stripped
  have shorter := List.rdropWhile_prefix isTrailing (value.dropWhile isBlank)
  exact (shorter.eq_of_length (length.symm.trans stripped.symm)).trans solid

theorem trim_replacement (canonical : List UInt8) :
    trim (replacement canonical) = replacement (canonical.rdropWhile isTrailing) := by
  have starts : (replacement canonical).dropWhile isBlank = replacement canonical := rfl
  rw [trim, starts, replacement, replacement]
  induction canonical using List.reverseRecOn with
  | nil => decide
  | append_singleton canonical last ih =>
      rw [← List.append_assoc]
      by_cases trailing : isTrailing last = true
      · rw [List.rdropWhile_concat_pos _ _ _ trailing, List.rdropWhile_concat_pos _ _ _ trailing]
        exact ih rfl
      · rw [List.rdropWhile_concat_neg _ _ _ trailing, List.rdropWhile_concat_neg _ _ _ trailing,
          List.append_assoc]

theorem sectionName_replacement (canonical : List UInt8) :
    sectionName (trim (replacement canonical)) = none := by
  rw [trim_replacement, sectionName, if_neg]
  rintro ⟨_, starts, _⟩
  exact absurd (Option.some.inj starts) (by decide)

/-- In the settings, the line that is written sets the current profile. -/
theorem currentProfileValue_replacement {currentSection : List UInt8}
    (settings : equalInsensitive currentSection settingsSection = true) (canonical : List UInt8) :
    currentProfileValue currentSection (trim (replacement canonical)) = some (trim canonical) := by
  rw [trim_replacement, currentProfileValue, if_pos]
  · exact congrArg some (trim_rdropWhile canonical)
  · exact ⟨settings, List.mem_append_left _ (by decide), rfl⟩

theorem ordinary_of_mem_replacement (plain : hasControl canonical = false) {byte : UInt8}
    (member : byte ∈ replacement canonical) : ¬ byte < 0x20 := by
  rcases List.mem_append.mp member with label | inside
  · have ordinary : ((utf8 "CurrentProfile=").all fun byte => !decide (byte < 0x20)) = true := by
      decide
    simpa using List.all_eq_true.mp ordinary byte label
  · rw [hasControl, List.any_eq_false] at plain
    have held := plain byte inside
    rw [Bool.or_eq_true, not_or, decide_eq_true_eq] at held
    exact held.1

theorem lineContent_replacement (plain : hasControl canonical = false) :
    LineContent (replacement canonical) where
  nonempty := by
    rw [replacement, Ne, List.append_eq_nil_iff, not_and]
    exact fun none_ => absurd none_ (by decide)
  oneLine feed := ordinary_of_mem_replacement plain feed (by decide)
  ends last := ordinary_of_mem_replacement plain (List.mem_of_getLast? last) (by decide)

/-! ## The edited text -/

theorem settings_of_currentProfileValue {currentSection content : List UInt8}
    (sets : currentProfileValue currentSection content = some value) :
    equalInsensitive currentSection settingsSection = true := by
  rw [currentProfileValue] at sets
  split_ifs at sets with found
  exact found.1

/-- The edited text has the names of the text, and one entry in the place of its own. -/
theorem edited_lines (nonempty : text ≠ []) (plain : hasControl canonical = false)
    (entries : profileEntries [] (placedLines text) = [(line, value)]) :
    names (placedLines (line.before ++ replacement canonical ++ line.after)) =
        names (placedLines text) ∧
      profileEntries [] (placedLines (line.before ++ replacement canonical ++ line.after)) =
        [(⟨line.before, replacement canonical, line.after⟩, trim canonical)] := by
  obtain ⟨front, back, split, noneBefore, plainLine, sets, noneBehind⟩ :=
    profileEntries_split entries
  obtain ⟨front', back', lines, sameFront, sameBack⟩ :=
    placedLines_edit nonempty split (lineContent_replacement plain)
  have sameSection : sectionAfter [] front' = sectionAfter [] front := by
    rw [sectionAfter, sameFront, sectionAfter]
  have sameEmpty : ∀ {others lines : List Line} (currentSection : List UInt8),
      others.map Line.content = lines.map Line.content →
      profileEntries currentSection lines = [] → profileEntries currentSection others = [] := by
    intro others lines currentSection same nothing
    have values := profileEntries_congr same currentSection
    rw [nothing] at values
    exact List.map_eq_nil_iff.mp values
  constructor
  · rw [lines, split, names_append, names_append, names_cons, names_cons, plainLine,
      sectionName_replacement, names, sameFront, names, sameBack]
    rfl
  · rw [lines, profileEntries_append, sameEmpty [] sameFront noneBefore, sameSection,
      profileEntries, sectionName_replacement,
      currentProfileValue_replacement (settings_of_currentProfileValue sets)]
    dsimp only
    rw [sameEmpty _ sameBack noneBehind, List.nil_append]

/-- The text around the line that sets the current profile. -/
theorem text_around_entry (nonempty : text ≠ [])
    (entries : profileEntries [] (placedLines text) = [(line, value)]) :
    text = line.before ++ line.content ++ line.after := by
  obtain ⟨front, back, split, _⟩ := profileEntries_split entries
  have member : line ∈ placedLines text := by
    rw [split]
    exact List.mem_append_right _ List.mem_cons_self
  rw [placedLines, if_neg (by simpa using nonempty)] at member
  exact text_of_mem_linesFrom member

/-! ## The bound of the text -/

theorem configWithinBound_iff :
    configWithinBound text = true ↔
      text ≠ [] ∧ text.length ≤ maxConfigBytes ∧ 0x00 ∉ text := by
  simp [configWithinBound, and_assoc]

/-- The edited text is accepted again when it is no longer than the bound. -/
theorem configWithinBound_edited (bounded : configWithinBound text = true)
    (plain : hasControl canonical = false)
    (entries : profileEntries [] (placedLines text) = [(line, value)]) :
    configWithinBound (line.before ++ replacement canonical ++ line.after) = true ↔
      text.length + (replacement canonical).length ≤ maxConfigBytes + line.content.length := by
  obtain ⟨nonempty, _, noZero⟩ := configWithinBound_iff.mp bounded
  have around := text_around_entry nonempty entries
  have lengths := congrArg List.length around
  simp only [List.length_append] at lengths
  rw [configWithinBound_iff]
  constructor
  · rintro ⟨_, short, _⟩
    simp only [List.length_append] at short
    omega
  · intro short
    refine ⟨?_, ?_, ?_⟩
    · have filled := (lineContent_replacement plain).nonempty
      simp [filled]
    · simp only [List.length_append]
      omega
    · rw [around, List.mem_append, List.mem_append, not_or, not_or] at noZero
      rw [List.mem_append, List.mem_append, not_or, not_or]
      refine ⟨⟨noZero.1.1, fun zero => ?_⟩, noZero.2⟩
      exact ordinary_of_mem_replacement plain zero (by decide)

/-! ## Agreement -/

/-- What an update of a text that the reader accepts should be to the reader. -/
structure UpdateAgrees (text requestedProfile : List UInt8) (config : ScyllaHideConfig)
    (update : ProfileUpdate) : Prop where
  /-- The reader finds the profile that was set among the profiles there were. -/
  reads : parseScyllaHideConfig update.text =
    .ok ⟨update.canonicalProfile, config.availableProfiles⟩
  /-- Only the content of the line of the current profile is another. -/
  edits : ∃ line value, profileEntries [] (placedLines text) = [(line, value)] ∧
    text = line.before ++ line.content ++ line.after ∧
    update.text = line.before ++ replacement update.canonicalProfile ++ line.after
  again : setScyllaHideProfile update.text requestedProfile = .ok update

/-- What the reader needs of a text and a profile that the writer accepts. -/
structure ProfileReadable (text requestedProfile : List UInt8) : Prop where
  notSettings : equalInsensitive requestedProfile settingsSection = false
  /-- The first section of that name is spelled like the last. -/
  oneSpelling : (matching requestedProfile (names (placedLines text))).head? =
    (matching requestedProfile (names (placedLines text))).getLast?
  noBlanks : ∀ name ∈ (matching requestedProfile (names (placedLines text))).getLast?,
    trim name = name
  fits : ∀ name ∈ (matching requestedProfile (names (placedLines text))).getLast?,
    ∀ line value, profileEntries [] (placedLines text) = [(line, value)] →
      text.length + (replacement name).length ≤ maxConfigBytes + line.content.length

theorem mem_matching {name : List UInt8} {names : List (List UInt8)} :
    name ∈ matching requestedProfile names ↔
      name ∈ names ∧ equalInsensitive name requestedProfile = true :=
  List.mem_filter

theorem mem_catalog {name : List UInt8} {names : List (List UInt8)} :
    name ∈ catalog names ↔ name ∈ names ∧ equalInsensitive name settingsSection = false := by
  rw [catalog, List.mem_filter, Bool.not_eq_true']

/-- Names that equal the same name equal each other. -/
theorem equalInsensitive_congr {left right : List UInt8}
    (same : equalInsensitive left right = true) (name : List UInt8) :
    equalInsensitive left name = equalInsensitive right name := by
  rw [equalInsensitive, equalInsensitive, equalInsensitive_iff.mp same]

/-- The reader takes the first profile of a name. -/
theorem find_catalog (notSettings : equalInsensitive requestedProfile settingsSection = false)
    (same : equalInsensitive canonical requestedProfile = true) (names : List (List UInt8)) :
    (catalog names).find? (fun profile => equalInsensitive profile canonical) =
      (matching requestedProfile names).head? := by
  rw [catalog, List.find?_filter, matching, List.head?_filter]
  congr 1
  funext name
  have target : equalInsensitive name canonical = equalInsensitive name requestedProfile := by
    rw [equalInsensitive, equalInsensitive, equalInsensitive_iff.mp same]
  cases held : equalInsensitive name requestedProfile with
  | false => simp [target, held]
  | true => simp [target, held, equalInsensitive_congr held, notSettings]

/-- What the reader makes of the edited text. -/
theorem parse_edited_iff (bounded : configWithinBound text = true)
    (profiles : CatalogWithinBound (catalog (names (placedLines text))))
    (plain : hasControl canonical = false)
    (entries : profileEntries [] (placedLines text) = [(line, value)]) :
    parseScyllaHideConfig (line.before ++ replacement canonical ++ line.after) =
        .ok ⟨canonical, catalog (names (placedLines text))⟩ ↔
      text.length + (replacement canonical).length ≤ maxConfigBytes + line.content.length ∧
        trim canonical ≠ [] ∧
        (catalog (names (placedLines text))).find?
          (fun profile => equalInsensitive profile (trim canonical)) = some canonical := by
  obtain ⟨nonempty, _⟩ := configWithinBound_iff.mp bounded
  obtain ⟨sameNames, oneEntry⟩ := edited_lines nonempty plain entries
  rw [parseScyllaHideConfig_eq_ok_iff, configWithinBound_edited bounded plain entries, sameNames,
    oneEntry]
  constructor
  · rintro ⟨short, _, _, _, _, one, filled, selects⟩
    cases one
    exact ⟨short, filled, selects⟩
  · rintro ⟨short, filled, selects⟩
    exact ⟨short, rfl, profiles, _, _, rfl, filled, selects⟩

/-- A name of the catalog is free of control bytes. -/
theorem plain_of_mem_catalog {name : List UInt8} {profiles : List (List UInt8)}
    (bounded : CatalogWithinBound profiles) (member : name ∈ profiles) :
    name ≠ [] ∧ hasControl name = false := by
  have within := bounded.names name member
  simp only [profileNameWithinBound, Bool.not_eq_true', Bool.or_eq_false_iff] at within
  exact ⟨by simpa using within.1.1, within.2⟩

/-- A profile that the reader finds in the updated text is readable. -/
theorem readable_of_reads {config again : ScyllaHideConfig} {update : ProfileUpdate}
    (parses : parseScyllaHideConfig text = .ok config)
    (sets : setScyllaHideProfile text requestedProfile = .ok update)
    (reads : parseScyllaHideConfig update.text = .ok again)
    (found : again.currentProfile = update.canonicalProfile) :
    ProfileReadable text requestedProfile := by
  obtain ⟨bounded, available, profiles, -⟩ := parseScyllaHideConfig_eq_ok_iff.mp parses
  obtain ⟨-, -, last, line, value, entries, written⟩ := setScyllaHideProfile_eq_ok_iff.mp sets
  obtain ⟨_, availableAgain, profilesAgain, _, _, _, _, selected⟩ :=
    parseScyllaHideConfig_eq_ok_iff.mp reads
  obtain ⟨nonempty, -⟩ := configWithinBound_iff.mp bounded
  obtain ⟨-, same⟩ := mem_matching.mp (List.mem_of_getLast? last)
  rw [found] at selected
  have member := List.mem_of_find?_eq_some selected
  obtain ⟨-, plain⟩ := plain_of_mem_catalog profilesAgain member
  have notSettings : equalInsensitive requestedProfile settingsSection = false := by
    rw [availableAgain] at member
    exact (equalInsensitive_congr same settingsSection).symm.trans (mem_catalog.mp member).2
  obtain ⟨sameNames, -⟩ := edited_lines nonempty plain entries
  have rest : again = ⟨update.canonicalProfile, catalog (names (placedLines text))⟩ := by
    rcases again with ⟨current, profiles⟩
    cases found
    rw [written, sameNames] at availableAgain
    cases availableAgain
    rfl
  rw [written, rest] at reads
  obtain ⟨fits, -, selects⟩ :=
    (parse_edited_iff bounded (available ▸ profiles) plain entries).mp reads
  have blankless :
      equalInsensitive update.canonicalProfile (trim update.canonicalProfile) = true :=
    List.find?_some
      (p := fun profile => equalInsensitive profile (trim update.canonicalProfile)) selects
  have noBlanks := trim_eq_self_of_equalInsensitive blankless
  rw [noBlanks, find_catalog notSettings same] at selects
  refine ⟨notSettings, selects.trans last.symm, ?_, ?_⟩
  · rintro name named
    cases last.symm.trans named
    exact noBlanks
  · rintro name named _ _ one
    cases last.symm.trans named
    cases entries.symm.trans one
    exact fits

theorem agrees_of_readable {config : ScyllaHideConfig} {update : ProfileUpdate}
    (parses : parseScyllaHideConfig text = .ok config)
    (sets : setScyllaHideProfile text requestedProfile = .ok update)
    (readable : ProfileReadable text requestedProfile) :
    UpdateAgrees text requestedProfile config update := by
  rcases readable with ⟨notSettings, oneSpelling, noBlanks, fits⟩
  obtain ⟨bounded, available, profiles, -⟩ := parseScyllaHideConfig_eq_ok_iff.mp parses
  obtain ⟨-, valid, last, line, value, entries, written⟩ := setScyllaHideProfile_eq_ok_iff.mp sets
  obtain ⟨nonempty, -⟩ := configWithinBound_iff.mp bounded
  obtain ⟨present, same⟩ := mem_matching.mp (List.mem_of_getLast? last)
  rw [available] at profiles
  have member : update.canonicalProfile ∈ catalog (names (placedLines text)) :=
    mem_catalog.mpr ⟨present, (equalInsensitive_congr same settingsSection).trans notSettings⟩
  obtain ⟨filled, plain⟩ := plain_of_mem_catalog profiles member
  have short := fits _ last _ _ entries
  have solid := noBlanks _ last
  refine ⟨?_, ⟨_, _, entries, text_around_entry nonempty entries, written⟩, ?_⟩
  · rw [written, available, parse_edited_iff bounded profiles plain entries, solid,
      find_catalog notSettings same]
    exact ⟨short, filled, oneSpelling.trans last⟩
  · obtain ⟨sameNames, oneEntry⟩ := edited_lines nonempty plain entries
    rw [setScyllaHideProfile_eq_ok_iff]
    refine ⟨?_, valid, ?_, ⟨line.before, replacement update.canonicalProfile, line.after⟩,
      trim update.canonicalProfile, ?_, written⟩
    · rw [written]
      exact (configWithinBound_edited bounded plain entries).mpr short
    · rw [written, sameNames]
      exact last
    · rw [written]
      exact oneEntry

/-- The reader and the writer agree about exactly the profiles that are readable. -/
theorem profile_update_agrees_iff {config : ScyllaHideConfig} {update : ProfileUpdate}
    (parses : parseScyllaHideConfig text = .ok config)
    (sets : setScyllaHideProfile text requestedProfile = .ok update) :
    UpdateAgrees text requestedProfile config update ↔ ProfileReadable text requestedProfile :=
  ⟨fun agrees => readable_of_reads parses sets agrees.reads rfl, agrees_of_readable parses sets⟩

/-- A configuration with two profiles, the first of which is current. -/
def twoProfiles : List UInt8 :=
  utf8 ("[SETTINGS]\r\nCurrentProfile=Basic\r\n[Basic]\r\nPebBeingDebugged=1\r\n" ++
    "[VMProtect x86/x64]\r\nPebBeingDebugged=1\r\n")

/-- A file with two profiles after an update. -/
def twoProfilesUpdated : ProfileUpdate where
  text := utf8 ("[SETTINGS]\r\nCurrentProfile=VMProtect x86/x64\r\n[Basic]\r\n" ++
    "PebBeingDebugged=1\r\n[VMProtect x86/x64]\r\nPebBeingDebugged=1\r\n")
  canonicalProfile := utf8 "VMProtect x86/x64"

theorem profile_update_agrees_two_profiles :
    UpdateAgrees twoProfiles (utf8 "vmprotect x86/x64")
        ⟨utf8 "Basic", [utf8 "Basic", utf8 "VMProtect x86/x64"]⟩ twoProfilesUpdated ↔
      ProfileReadable twoProfiles (utf8 "vmprotect x86/x64") :=
  profile_update_agrees_iff (by decide +kernel) (by decide +kernel)

/-- `SETTINGS` is a section to the writer, but no profile to the reader. -/
theorem settings_not_readable :
    ∃ text requestedProfile config update, parseScyllaHideConfig text = .ok config ∧
      setScyllaHideProfile text requestedProfile = .ok update ∧
      ¬ UpdateAgrees text requestedProfile config update := by
  refine ⟨utf8 "[SETTINGS]\r\nCurrentProfile=Basic\r\n[Basic]\r\n", utf8 "settings",
    ⟨utf8 "Basic", [utf8 "Basic"]⟩,
    ⟨utf8 "[SETTINGS]\r\nCurrentProfile=SETTINGS\r\n[Basic]\r\n", utf8 "SETTINGS"⟩,
    by decide +kernel, by decide +kernel, ?_⟩
  rintro ⟨reads, _, _⟩
  have fails : parseScyllaHideConfig
      (utf8 "[SETTINGS]\r\nCurrentProfile=SETTINGS\r\n[Basic]\r\n") =
        .error "ScyllaHide CurrentProfile does not name an available profile" := by
    decide +kernel
  cases fails.symm.trans reads

end X64dbgMcp.Settings
