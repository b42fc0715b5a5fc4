import X64dbgMcp.Settings.LineEdit
import X64dbgMcp.Transition.EarlyExit

/-!
# What the two scans find

The reader and the writer go over the same lines and keep different things of them.  Both
are given here in terms of the names in brackets and of the entries for the current
profile, which do not depend on the order in which the scans fail.
-/

namespace X64dbgMcp.Settings

open Text

variable {requestedProfile currentSection : List UInt8} {lines front back : List Line}

theorem equalInsensitive_iff {left right : List UInt8} :
    equalInsensitive left right = true ↔ left.map toLower = right.map toLower :=
  beq_iff_eq

theorem length_of_equalInsensitive {left right : List UInt8}
    (same : equalInsensitive left right = true) : left.length = right.length := by
  have lengths := congrArg List.length (equalInsensitive_iff.mp same)
  rwa [List.length_map, List.length_map] at lengths

/-! ## Names and entries -/

/-- The names in brackets. -/
def names (lines : List Line) : List (List UInt8) :=
  (lines.map Line.content).filterMap fun content => sectionName (trim content)

/-- The section behind some lines. -/
def sectionAfter (currentSection : List UInt8) (lines : List Line) : List UInt8 :=
  (lines.map Line.content).foldl
    (fun currentSection content => (sectionName (trim content)).getD currentSection) currentSection

/-- The lines that set the current profile, with what they set it to. -/
def profileEntries (currentSection : List UInt8) : List Line → List (Line × List UInt8)
  | [] => []
  | line :: lines =>
      match sectionName (trim line.content) with
      | some name => profileEntries name lines
      | none =>
          match currentProfileValue currentSection (trim line.content) with
          | some value => (line, value) :: profileEntries currentSection lines
          | none => profileEntries currentSection lines

attribute [grind =] profileEntries

theorem names_cons (line : Line) (lines : List Line) :
    names (line :: lines) = (sectionName (trim line.content)).toList ++ names lines := by
  rw [names, List.map_cons, List.filterMap_cons]
  cases sectionName (trim line.content) <;> rfl

theorem names_append (front back : List Line) :
    names (front ++ back) = names front ++ names back := by
  rw [names, List.map_append, List.filterMap_append]
  rfl

theorem profileEntries_append (currentSection : List UInt8) (front back : List Line) :
    profileEntries currentSection (front ++ back) =
      profileEntries currentSection front ++
        profileEntries (sectionAfter currentSection front) back := by
  induction front generalizing currentSection with
  | nil => rfl
  | cons line front ih =>
      rw [List.cons_append, profileEntries, profileEntries, sectionAfter, List.map_cons,
        List.foldl_cons]
      cases sectionName (trim line.content) with
      | some name => exact ih name
      | none =>
          cases currentProfileValue currentSection (trim line.content) with
          | none => exact ih currentSection
          | some value => exact congrArg ((line, value) :: ·) (ih currentSection)

/-- Only the contents of the lines matter. -/
theorem profileEntries_congr {others : List Line}
    (same : others.map Line.content = lines.map Line.content) (currentSection : List UInt8) :
    (profileEntries currentSection others).map Prod.snd =
      (profileEntries currentSection lines).map Prod.snd := by
  induction lines generalizing others currentSection with
  | nil => rw [List.map_eq_nil_iff.mp same]
  | cons line lines ih =>
      rcases others with _ | ⟨other, others⟩
      · cases same
      · obtain ⟨content, same⟩ := List.cons.inj same
        rw [profileEntries, profileEntries, content]
        cases sectionName (trim line.content) with
        | some name => exact ih same name
        | none =>
            cases currentProfileValue currentSection (trim line.content) with
            | none => exact ih same currentSection
            | some value => exact congrArg (value :: ·) (ih same currentSection)

/-- Where the first entry is. -/
theorem profileEntries_split {line : Line} {value : List UInt8}
    {later : List (Line × List UInt8)}
    (entries : profileEntries currentSection lines = (line, value) :: later) :
    ∃ front back, lines = front ++ line :: back ∧ profileEntries currentSection front = [] ∧
      sectionName (trim line.content) = none ∧
      currentProfileValue (sectionAfter currentSection front) (trim line.content) = some value ∧
      profileEntries (sectionAfter currentSection front) back = later := by
  induction lines generalizing currentSection with
  | nil => cases entries
  | cons first lines ih =>
      rw [profileEntries] at entries
      cases named : sectionName (trim first.content) with
      | some name =>
          rw [named] at entries
          obtain ⟨front, back, rfl, none_, plain, sets, rest⟩ := ih entries
          have onward : sectionAfter currentSection (first :: front) = sectionAfter name front := by
            rw [sectionAfter, List.map_cons, List.foldl_cons, named]
            rfl
          refine ⟨first :: front, back, rfl, ?_, plain, onward ▸ sets, onward ▸ rest⟩
          rw [profileEntries, named]
          exact none_
      | none =>
          rw [named] at entries
          cases valued : currentProfileValue currentSection (trim first.content) with
          | some found =>
              rw [valued] at entries
              cases entries
              exact ⟨[], lines, rfl, rfl, named, valued, rfl⟩
          | none =>
              rw [valued] at entries
              obtain ⟨front, back, rfl, none_, plain, sets, rest⟩ := ih entries
              have onward : sectionAfter currentSection (first :: front) =
                  sectionAfter currentSection front := by
                rw [sectionAfter, List.map_cons, List.foldl_cons, named]
                rfl
              refine ⟨first :: front, back, rfl, ?_, plain, onward ▸ sets, onward ▸ rest⟩
              rw [profileEntries, named, valued]
              exact none_

/-! ## The writer -/

/-- The names that equal the requested one but for the case. -/
def matching (requestedProfile : List UInt8) (names : List (List UInt8)) : List (List UInt8) :=
  names.filter fun name => equalInsensitive name requestedProfile

theorem foldlM_updateLine {scan : UpdateScan} {found : Option Line}
    {canonical : Option (List UInt8)} :
    (∃ currentSection,
        lines.foldlM (updateLine requestedProfile) scan = .ok ⟨currentSection, found, canonical⟩) ↔
      scan.currentProfileLine.toList ++
          (profileEntries scan.currentSection lines).map Prod.fst = found.toList ∧
        (matching requestedProfile (names lines)).getLast?.or scan.canonicalProfile =
          canonical := by
  induction lines generalizing scan with
  | nil =>
      rcases scan with ⟨section_, line, profile⟩
      have injective : line.toList = found.toList ↔ line = found := by
        cases line <;> cases found <;> simp
      simp [profileEntries, names, matching, injective, pure, Except.pure]
  | cons line lines ih =>
      rw [List.foldlM_cons, profileEntries, names_cons, updateLine]
      cases sectionName (trim line.content) with
      | some name =>
          refine ih.trans (and_congr_right fun _ => ?_)
          simp only [matching, Option.toList_some, List.singleton_append, List.filter_cons]
          split_ifs with same
          · rw [List.getLast?_cons]
            cases (List.filter _ (names lines)).getLast? <;> rfl
          · rfl
      | none =>
          cases valued : currentProfileValue scan.currentSection (trim line.content) with
          | none => exact ih
          | some value =>
              cases kept : scan.currentProfileLine with
              | none =>
                  refine ih.trans ?_
                  rfl
              | some first =>
                  constructor
                  · rintro ⟨_, passed⟩
                    cases passed
                  · rintro ⟨twice, _⟩
                    have lengths := congrArg List.length twice
                    cases found <;> simp at lengths

/-- What the writer writes, and where. -/
theorem setScyllaHideProfile_eq_ok_iff {text : List UInt8} {update : ProfileUpdate} :
    setScyllaHideProfile text requestedProfile = .ok update ↔
      configWithinBound text = true ∧ validProfileName requestedProfile = true ∧
        (matching requestedProfile (names (placedLines text))).getLast? =
          some update.canonicalProfile ∧
        ∃ line value, profileEntries [] (placedLines text) = [(line, value)] ∧
          update.text = line.before ++ replacement update.canonicalProfile ++ line.after := by
  unfold setScyllaHideProfile
  split_ifs with bounded valid
  · rw [Bool.not_eq_true'] at bounded
    simp [bounded]
  · rw [Bool.not_eq_true'] at valid
    simp [valid]
  · simp only [Bool.not_eq_true', Bool.not_eq_false] at bounded valid
    rw [Transition.bind_eq_ok]
    constructor
    · rintro ⟨⟨section_, found, canonical⟩, scanned, written⟩
      obtain ⟨entries, last⟩ := foldlM_updateLine.mp ⟨section_, scanned⟩
      cases canonical with
      | none => cases written
      | some canonical =>
          cases found with
          | none => cases written
          | some line =>
              cases written
              obtain ⟨⟨_, value⟩, one, rfl⟩ := List.map_eq_singleton_iff.mp entries
              exact ⟨bounded, valid, (Option.or_none).symm.trans last, _, value, one, rfl⟩
    · rintro ⟨_, _, last, line, value, one, written⟩
      have found : ∃ currentSection, (placedLines text).foldlM (updateLine requestedProfile) {} =
          .ok ⟨currentSection, some line, some update.canonicalProfile⟩ :=
        foldlM_updateLine.mpr ⟨by rw [one]; rfl, Option.or_none.trans last⟩
      obtain ⟨section_, scanned⟩ := found
      refine ⟨_, scanned, ?_⟩
      rcases update with ⟨updated, canonical⟩
      change updated = _ at written
      rw [written]

/-! ## The reader -/

/-- The names of the profiles. -/
def catalog (names : List (List UInt8)) : List (List UInt8) :=
  names.filter fun name => !equalInsensitive name settingsSection

theorem catalog_cons (name : List UInt8) (names : List (List UInt8)) :
    catalog (name :: names) =
      if equalInsensitive name settingsSection then catalog names else name :: catalog names := by
  rw [catalog, List.filter_cons]
  cases equalInsensitive name settingsSection <;> rfl

/-- A name that a profile may have. -/
def profileNameWithinBound (name : List UInt8) : Bool :=
  !(name.isEmpty || 128 < name.length || hasControl name)

/-- The names of the profiles are within their bound, and so is their number. -/
structure CatalogWithinBound (profiles : List (List UInt8)) : Prop where
  names : ∀ name ∈ profiles, profileNameWithinBound name = true
  size : profiles.length ≤ 128

theorem catalogWithinBound_concat {profiles : List (List UInt8)}
    (bounded : CatalogWithinBound profiles) (name : List UInt8) :
    CatalogWithinBound (profiles ++ [name]) ↔
      (name.isEmpty || 128 < name.length || 128 ≤ profiles.length || hasControl name) = false := by
  constructor
  · rintro ⟨valid, size⟩
    have last := valid name (List.mem_append_right _ (List.mem_singleton.mpr rfl))
    rw [List.length_append, List.length_singleton] at size
    have room : ¬ 128 ≤ profiles.length := by omega
    simpa [profileNameWithinBound, room] using last
  · intro fits
    simp only [Bool.or_eq_false_iff, decide_eq_false_iff_not] at fits
    rcases fits with ⟨⟨⟨filled, short⟩, room⟩, plain⟩
    refine ⟨?_, ?_⟩
    · rintro other member
      rcases List.mem_append.mp member with earlier | here
      · exact bounded.names other earlier
      · rw [List.mem_singleton.mp here]
        simp [profileNameWithinBound, filled, short, plain]
    · rw [List.length_append, List.length_singleton]
      omega

theorem CatalogWithinBound.of_append {profiles others : List (List UInt8)}
    (bounded : CatalogWithinBound (profiles ++ others)) : CatalogWithinBound profiles where
  names name member := bounded.names name (List.mem_append_left _ member)
  size := (List.sublist_append_left profiles others).length_le.trans bounded.size

theorem foldlM_configLine {scan : ConfigScan} (bounded : CatalogWithinBound scan.profiles)
    {found : Option (List UInt8)} {profiles : List (List UInt8)} :
    (∃ currentSection, lines.foldlM configLine scan = .ok ⟨currentSection, found, profiles⟩) ↔
      scan.currentProfile.toList ++
          (profileEntries scan.currentSection lines).map Prod.snd = found.toList ∧
        profiles = scan.profiles ++ catalog (names lines) ∧ CatalogWithinBound profiles := by
  induction lines generalizing scan with
  | nil =>
      rcases scan with ⟨section_, profile, others⟩
      have injective : profile.toList = found.toList ↔ profile = found := by
        cases profile <;> cases found <;> simp
      simp only [List.foldlM_nil, profileEntries, names, catalog, injective, pure, Except.pure,
        List.map_nil, List.filterMap_nil, List.filter_nil, List.append_nil]
      constructor
      · rintro ⟨_, passed⟩
        cases passed
        exact ⟨rfl, rfl, bounded⟩
      · rintro ⟨rfl, rfl, _⟩
        exact ⟨_, rfl⟩
  | cons line lines ih =>
      rw [List.foldlM_cons, profileEntries, names_cons, configLine]
      cases sectionName (trim line.content) with
      | some name =>
          rw [Option.toList_some, List.singleton_append, catalog_cons]
          by_cases settings : equalInsensitive name settingsSection = true
          · simp only [if_pos settings]
            exact ih bounded
          · simp only [if_neg settings]
            have more : scan.profiles ++ name :: catalog (names lines) =
                scan.profiles ++ [name] ++ catalog (names lines) := by
              rw [List.append_assoc, List.singleton_append]
            by_cases fits : CatalogWithinBound (scan.profiles ++ [name])
            · simp only [(catalogWithinBound_concat bounded name).mp fits, Bool.false_eq_true,
                if_false, more]
              exact ih fits
            · have stops := Bool.not_eq_false _ ▸
                (catalogWithinBound_concat bounded name).not.mp fits
              simp only [stops, if_true, more]
              constructor
              · rintro ⟨_, passed⟩
                cases passed
              · rintro ⟨_, rfl, within⟩
                exact absurd within.of_append fits
      | none =>
          cases valued : currentProfileValue scan.currentSection (trim line.content) with
          | none => exact ih bounded
          | some value =>
              cases kept : scan.currentProfile with
              | none => exact ih bounded
              | some first =>
                  constructor
                  · rintro ⟨_, passed⟩
                    cases passed
                  · rintro ⟨twice, _⟩
                    have lengths := congrArg List.length twice
                    cases found <;> simp at lengths

/-- What the reader accepts, and what it reads. -/
theorem parseScyllaHideConfig_eq_ok_iff {text : List UInt8} {config : ScyllaHideConfig} :
    parseScyllaHideConfig text = .ok config ↔
      configWithinBound text = true ∧
        config.availableProfiles = catalog (names (placedLines text)) ∧
        CatalogWithinBound config.availableProfiles ∧
        ∃ line value, profileEntries [] (placedLines text) = [(line, value)] ∧ value ≠ [] ∧
          config.availableProfiles.find? (fun profile => equalInsensitive profile value) =
            some config.currentProfile := by
  unfold parseScyllaHideConfig
  split_ifs with bounded
  · rw [Bool.not_eq_true'] at bounded
    simp [bounded]
  · simp only [Bool.not_eq_true', Bool.not_eq_false] at bounded
    have empty : CatalogWithinBound [] := ⟨by simp, by simp⟩
    rw [Transition.bind_eq_ok]
    constructor
    · rintro ⟨⟨section_, found, profiles⟩, scanned, read⟩
      obtain ⟨entries, rfl, within⟩ := (foldlM_configLine empty).mp ⟨section_, scanned⟩
      cases found with
      | none => cases read
      | some value =>
          obtain ⟨⟨line, _⟩, one, rfl⟩ := List.map_eq_singleton_iff.mp entries
          dsimp only at read
          split_ifs at read with blank
          cases selects : List.find? (fun profile => equalInsensitive profile _)
              ([] ++ catalog (names (placedLines text))) with
          | none =>
              rw [selects] at read
              cases read
          | some selected =>
              rw [selects] at read
              cases read
              exact ⟨bounded, rfl, within, line, _, one, by simpa using blank, selects⟩
    · rintro ⟨_, profiles, within, line, value, one, filled, selects⟩
      have found : ∃ currentSection, (placedLines text).foldlM configLine {} =
          .ok ⟨currentSection, some value, config.availableProfiles⟩ :=
        (foldlM_configLine empty).mpr ⟨by rw [one]; rfl, profiles, within⟩
      obtain ⟨section_, scanned⟩ := found
      refine ⟨_, scanned, ?_⟩
      rcases config with ⟨current, available⟩
      have blank : ¬ value.isEmpty = true := by simpa using filled
      dsimp only at selects ⊢
      rw [if_neg blank, selects]

end X64dbgMcp.Settings
