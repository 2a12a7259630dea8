import Mathlib.Data.Finset.Insert
import AspectAgent.Config
import AspectAgent.Proofs.Trimming

/-!
# Reading a configuration from the environment

Each switch has a variable of its own and is read from it alone: the text without the white space
around it, in small letters, has to be one of eight words. The three are read in a fixed order, and
the first that is set to anything else ends the reading. The disabled modules are read from a text
that lists them between commas, in any of the ways in which that can be written, and there is no
text that does not list some names or none.
-/

namespace AspectAgent.AgentConfig

variable {lower : List Char → List Char} {env : Table String} {setting raw w n : String}
  {default b : Bool} {f : Failure} {names : Finset String}

/-! ## Switches -/

/-- A rule for small letters: ASCII capitals are mapped as usual, and a text with a character beyond
ASCII is mapped to one with a character that is in none of the words. -/
structure Lowers (lower : List Char → List Char) : Prop where
  ascii : ∀ s, (∀ c ∈ s, c.toNat < 128) → lower s = Text.lowerAscii s
  beyond : ∀ s, (∃ c ∈ s, 128 ≤ c.toNat) → ∃ d ∈ lower s, ∀ w ∈ onWords ++ offWords, d ∉ w.toList

theorem ascii_of_mem_word (hw : w ∈ onWords ++ offWords) {c : Char} (hc : c ∈ w.toList) :
    c.toNat < 128 := by
  have hall : ∀ w ∈ onWords ++ offWords, (w.toList.all fun c => c.toNat < 128) = true := by decide
  simpa using List.all_eq_true.mp (hall w hw) c hc

theorem toLower_of_beyond {c : Char} (hc : 128 ≤ c.toNat) : c.toLower = c := by
  refine dif_neg fun hcapital => ?_
  have hle : c.toNat ≤ 90 := UInt32.le_iff_toNat_le.mp hcapital.2
  omega

theorem lowers_lowerAscii : Lowers Text.lowerAscii where
  ascii _ _ := rfl
  beyond s := by
    rintro ⟨c, hc, hbeyond⟩
    refine ⟨c, ?_, fun w hw hmem => absurd (ascii_of_mem_word hw hmem) (not_lt.mpr hbeyond)⟩
    exact List.mem_map.mpr ⟨c, hc, toLower_of_beyond hbeyond⟩

/-- Which rule for small letters is used makes no difference to the words. -/
theorem Lowers.eq_word_iff (hlower : Lowers lower) (hw : w ∈ onWords ++ offWords) (s : List Char) :
    lower s = w.toList ↔ Text.lowerAscii s = w.toList := by
  by_cases hs : ∃ c ∈ s, 128 ≤ c.toNat
  · have hne : ∀ {lower : List Char → List Char}, Lowers lower → lower s ≠ w.toList := by
      intro lower hlower heq
      obtain ⟨d, hd, hnone⟩ := hlower.beyond s hs
      exact hnone w hw (heq ▸ hd)
    exact iff_of_false (hne hlower) (hne lowers_lowerAscii)
  · rw [hlower.ascii s fun c hc => not_le.mp fun hbeyond => hs ⟨c, hc, hbeyond⟩]

/-- A text says a word: without the white space around it and in small letters it is that word. -/
def Says (lower : List Char → List Char) (raw w : String) : Prop :=
  ∃ core, Text.Trimmed core ∧ Text.Pads core raw.toList ∧ lower core = w.toList

theorem says_iff (hlower : Lowers lower) (hw : w ∈ onWords ++ offWords) :
    Says lower raw w ↔ word raw = w := by
  rw [word, ← String.toList_inj, String.toList_ofList]
  constructor
  · rintro ⟨core, htrimmed, hpads, hcore⟩
    rwa [Text.trimChars_of_pads htrimmed hpads, ← hlower.eq_word_iff hw]
  · intro h
    exact ⟨_, Text.trimmed_trimChars _, Text.pads_trimChars _, (hlower.eq_word_iff hw _).mpr h⟩

/-- What a switch is set to by its variable, or its default if there is none. -/
def Sets (lower : List Char → List Char) (value : Option String) (default b : Bool) : Prop :=
  match value with
  | none => b = default
  | some raw => ∃ w ∈ if b then onWords else offWords, Says lower raw w

/-- A variable is set to a text that says none of the words. -/
def Misspells (lower : List Char → List Char) (value : Option String) (raw : String) : Prop :=
  value = some raw ∧ ∀ w ∈ onWords ++ offWords, ¬ Says lower raw w

/-- The variable of a setting. -/
def variableOf (env : Table String) (setting : String) : Option String :=
  env.get? (variablePrefix ++ setting)

/-- The switches, in the order in which they are read. -/
def switches : List String := ["ENABLED", "CAPTURE_DIAGNOSTICS", "LOG_ADVICE_FAULTS"]

theorem Sets.not_misspells (h : Sets lower (variableOf env setting) default b) :
    ¬ Misspells lower (variableOf env setting) raw := by
  rintro ⟨hvalue, hnone⟩
  rw [hvalue] at h
  obtain ⟨w, hw, hsays⟩ := h
  refine hnone w (List.mem_append.mpr ?_) hsays
  cases b with
  | true => exact .inl hw
  | false => exact .inr hw

theorem readSwitch_cases (hlower : Lowers lower) (setting raw : String) :
    (∃ b, readSwitch setting raw = .ok b ∧ Sets lower (some raw) default b) ∨
      readSwitch setting raw = .error (.notBoolean setting raw) ∧
        Misspells lower (some raw) raw := by
  by_cases hon : word raw ∈ onWords
  · refine .inl ⟨true, ?_, word raw, hon, (says_iff hlower (by simp [hon])).mpr rfl⟩
    rw [readSwitch, if_pos (List.contains_iff_mem.mpr hon)]
  by_cases hoff : word raw ∈ offWords
  · refine .inl ⟨false, ?_, word raw, hoff, (says_iff hlower (by simp [hoff])).mpr rfl⟩
    rw [readSwitch, if_neg (by simpa using hon), if_pos (List.contains_iff_mem.mpr hoff)]
  · refine .inr ⟨?_, rfl, fun w hw hsays => ?_⟩
    · rw [readSwitch, if_neg (by simpa using hon), if_neg (by simpa using hoff)]
    · rw [← (says_iff hlower hw).mp hsays] at hw
      exact (List.mem_append.mp hw).elim hon hoff

/-- A switch is read, or its variable is set to a text that says none of the words. -/
theorem switchFrom_cases (hlower : Lowers lower) (env : Table String) (setting : String)
    (default : Bool) :
    (∃ b, switchFrom env setting (.bool default) = .ok (.bool b) ∧
        Sets lower (variableOf env setting) default b) ∨
      ∃ raw, switchFrom env setting (.bool default) =
          .error (.notBoolean (variablePrefix ++ setting) raw) ∧
        Misspells lower (variableOf env setting) raw := by
  rw [switchFrom, variableOf]
  cases env.get? (variablePrefix ++ setting) with
  | none => exact .inl ⟨default, rfl, rfl⟩
  | some raw =>
    rcases readSwitch_cases hlower (variablePrefix ++ setting) raw with
      ⟨b, hread, hsets⟩ | ⟨hread, hmisspells⟩
    · exact .inl ⟨b, congrArg (Except.map Value.bool) hread, hsets⟩
    · exact .inr ⟨raw, congrArg (Except.map Value.bool) hread, hmisspells⟩

/-! ## Names -/

/-- A name that can be listed: not empty, without a comma, and without white space at its ends. -/
structure Listable (n : String) : Prop where
  nonempty : n ≠ ""
  noComma : ',' ∉ n.toList
  trimmed : Text.Trimmed n.toList

/-- A text lists names: between its commas stand the names, in any order, as often as one likes,
each with white space around it or none, and there may be blank pieces as well. -/
def Lists (raw : String) (names : Finset String) : Prop :=
  ∃ pieces : List (List Char), raw.toList = [','].intercalate pieces ∧
    (∀ piece ∈ pieces, Text.AllBlank piece ∨ ∃ n ∈ names, Text.Pads n.toList piece) ∧
    ∀ n ∈ names, ∃ piece ∈ pieces, Text.Pads n.toList piece

theorem mem_readNames : n ∈ readNames raw ↔
    n ≠ "" ∧ ∃ piece ∈ Text.splitChars ',' raw.toList, Text.trimChars piece = n.toList := by
  have hempty : n ≠ "" ↔ n.toList ≠ [] := not_congr String.toList_eq_nil_iff.symm
  rw [readNames, NameSet.mem_ofList, List.mem_map, hempty]
  constructor
  · rintro ⟨cs, hcs, rfl⟩
    obtain ⟨hmem, hne⟩ := List.mem_filter.mp hcs
    obtain ⟨piece, hpiece, rfl⟩ := List.mem_map.mp hmem
    rw [String.toList_ofList]
    exact ⟨by simpa using hne, piece, hpiece, rfl⟩
  · rintro ⟨hne, piece, hpiece, htrim⟩
    have hmem : n.toList ∈ (Text.splitChars ',' raw.toList).map Text.trimChars :=
      htrim ▸ List.mem_map_of_mem hpiece
    exact ⟨n.toList, List.mem_filter.mpr ⟨hmem, by simpa using hne⟩, String.ofList_toList⟩

/-- The names of a text are those of the pieces from which it is joined. -/
theorem mem_readNames_of_pieces {pieces : List (List Char)}
    (hraw : raw.toList = [','].intercalate pieces) (hcommas : ∀ piece ∈ pieces, ',' ∉ piece) :
    n ∈ readNames raw ↔ n ≠ "" ∧ ∃ piece ∈ pieces, Text.trimChars piece = n.toList := by
  rw [mem_readNames, hraw, Text.splitChars_eq_splitOn]
  by_cases hne : pieces = []
  · -- no pieces at all are one empty piece, which is no name
    subst hne
    refine and_congr_right fun hn => iff_of_false ?_ (by simp)
    rintro ⟨piece, hpiece, htrim⟩
    rw [List.mem_singleton.mp hpiece] at htrim
    exact hn (String.toList_eq_nil_iff.mp htrim.symm)
  · rw [List.splitOn_intercalate ',' hcommas hne]

theorem comma_not_mem_of_pads {s t : List Char} (hs : ',' ∉ s) (h : Text.Pads s t) : ',' ∉ t := by
  have hblank : ∀ {u : List Char}, Text.AllBlank u → ',' ∉ u := fun hu hcomma =>
    absurd (hu _ hcomma) (by decide)
  obtain ⟨before, behind, hbefore, hbehind, rfl⟩ := h
  simp [hs, hblank hbefore, hblank hbehind]

theorem listable_of_mem (h : n ∈ readNames raw) : Listable n := by
  obtain ⟨hne, piece, hpiece, htrim⟩ := mem_readNames.mp h
  obtain ⟨htrimmed, before, behind, -, -, hpads⟩ := Text.trimChars_eq_iff.mp htrim
  refine ⟨hne, fun hcomma => ?_, htrimmed⟩
  have hmem : ',' ∈ piece := by
    rw [hpads]
    simp [hcomma]
  exact Text.not_mem_of_mem_splitChars hpiece hmem

/-- Whatever way names are listed in, just these are read. -/
theorem Lists.mem_readNames_iff (h : Lists raw names) (hnames : ∀ n ∈ names, Listable n) :
    n ∈ readNames raw ↔ n ∈ names := by
  obtain ⟨pieces, hraw, hpieces, hall⟩ := h
  have hcommas : ∀ piece ∈ pieces, ',' ∉ piece := by
    intro piece hpiece
    rcases hpieces piece hpiece with hblank | ⟨m, hm, hpads⟩
    · exact comma_not_mem_of_pads List.not_mem_nil hblank.pads_nil
    · exact comma_not_mem_of_pads (hnames m hm).noComma hpads
  rw [mem_readNames_of_pieces hraw hcommas]
  constructor
  · rintro ⟨hne, piece, hpiece, htrim⟩
    rcases hpieces piece hpiece with hblank | ⟨m, hm, hpads⟩
    · rw [Text.trimChars_eq_nil_iff.mpr hblank] at htrim
      exact absurd (String.toList_eq_nil_iff.mp htrim.symm) hne
    · rw [Text.trimChars_of_pads (hnames m hm).trimmed hpads] at htrim
      exact String.toList_inj.mp htrim ▸ hm
  · intro hn
    obtain ⟨piece, hpiece, hpads⟩ := hall n hn
    exact ⟨(hnames n hn).nonempty, piece, hpiece,
      Text.trimChars_of_pads (hnames n hn).trimmed hpads⟩

/-- A text lists the names that are read from it: its own pieces are the way. -/
theorem lists_of_read (hread : ∀ n, n ∈ readNames raw ↔ n ∈ names) : Lists raw names := by
  have hname : ∀ {piece : List Char} {m : String}, Text.trimChars piece = m.toList →
      Text.Pads m.toList piece := fun htrim => (Text.trimChars_eq_iff.mp htrim).2
  refine ⟨Text.splitChars ',' raw.toList, ?_, fun piece hpiece => ?_, fun n hn => ?_⟩
  · rw [Text.splitChars_eq_splitOn, List.intercalate_splitOn]
  · by_cases hblank : Text.trimChars piece = []
    · exact .inl (Text.trimChars_eq_nil_iff.mp hblank)
    · have htrim : Text.trimChars piece = (String.ofList (Text.trimChars piece)).toList :=
        String.toList_ofList.symm
      have hne : String.ofList (Text.trimChars piece) ≠ "" := fun h =>
        hblank (htrim.trans (String.toList_eq_nil_iff.mpr h))
      exact .inr ⟨_, (hread _).mp (mem_readNames.mpr ⟨hne, piece, hpiece, htrim⟩), hname htrim⟩
  · obtain ⟨-, piece, hpiece, htrim⟩ := mem_readNames.mp ((hread n).mpr hn)
    exact ⟨piece, hpiece, hname htrim⟩

/-- The texts that list some names are just those from which these are read. -/
theorem lists_iff (hnames : ∀ n ∈ names, Listable n) :
    Lists raw names ↔ ∀ n, n ∈ readNames raw ↔ n ∈ names :=
  ⟨fun h _ => h.mem_readNames_iff hnames, lists_of_read⟩

theorem isModuleEnabled_eq (c : AgentConfig) (n : String) :
    c.isModuleEnabled n = (c.enabled.truthy && !c.disabledModules.contains n) := by
  rw [isModuleEnabled, moduleSwitch]
  cases h : c.enabled.truthy with
  | true => rfl
  | false => rw [if_neg (by simp), h, Bool.false_and]

/-! ## The whole environment -/

/-- The first switch, in the order of reading, whose variable is set to a text that says none of the
words. -/
def FirstMisspelled (lower : List Char → List Char) (env : Table String) (setting raw : String) :
    Prop :=
  Misspells lower (variableOf env setting) raw ∧ ∃ earlier later,
    switches = earlier ++ setting :: later ∧
      ∀ s ∈ earlier, ∀ t, ¬ Misspells lower (variableOf env s) t

theorem FirstMisspelled.unique {setting' raw' : String} (h : FirstMisspelled lower env setting raw)
    (h' : FirstMisspelled lower env setting' raw') : setting = setting' ∧ raw = raw' := by
  classical
  have hfind : ∀ {setting raw : String}, FirstMisspelled lower env setting raw →
      switches.find? (fun s => ∃ t, Misspells lower (variableOf env s) t) = some setting := by
    rintro setting raw ⟨hmisspells, earlier, later, hsplit, hearlier⟩
    refine List.find?_eq_some_iff_append.mpr ⟨by simpa using ⟨raw, hmisspells⟩, earlier, later,
      hsplit, fun s hs => by simpa using hearlier s hs⟩
  obtain rfl : setting = setting' := Option.some.inj ((hfind h).symm.trans (hfind h'))
  exact ⟨rfl, Option.some.inj (h.1.1.symm.trans h'.1.1)⟩

/-- A configuration that is read from an environment: each setting from its own variable. -/
structure ReadFrom (lower : List Char → List Char) (env : Table String) (c : AgentConfig) :
    Prop where
  enabled : ∃ b, c.enabled = .bool b ∧ Sets lower (variableOf env "ENABLED") true b
  captureDiagnostics : ∃ b, c.captureDiagnostics = .bool b ∧
    Sets lower (variableOf env "CAPTURE_DIAGNOSTICS") false b
  logAdviceFaults : ∃ b, c.logAdviceFaults = .bool b ∧
    Sets lower (variableOf env "LOG_ADVICE_FAULTS") true b
  disabledModules :
    match variableOf env "DISABLED_MODULES" with
    | none => c.disabledModules = []
    | some raw => (∀ n ∈ c.disabledModules, Listable n) ∧
        ∀ names : Finset String, (∀ n ∈ names, Listable n) →
          (Lists raw names ↔ ∀ n, n ∈ c.disabledModules ↔ n ∈ names)

/-- Reading ends at the first misspelled switch, or reads every setting. -/
theorem ofEnvironment_cases (hlower : Lowers lower) (env : Table String) :
    (∃ setting raw, FirstMisspelled lower env setting raw ∧
        ofEnvironment env = .error (.notBoolean (variablePrefix ++ setting) raw)) ∨
      (∀ s ∈ switches, ∀ t, ¬ Misspells lower (variableOf env s) t) ∧
        ∃ c, ofEnvironment env = .ok c ∧ ReadFrom lower env c := by
  rcases switchFrom_cases hlower env "ENABLED" true with ⟨e, he, hesets⟩ | ⟨raw, he, hmisspells⟩
  · rcases switchFrom_cases hlower env "CAPTURE_DIAGNOSTICS" false with
      ⟨d, hd, hdsets⟩ | ⟨raw, hd, hmisspells⟩
    · rcases switchFrom_cases hlower env "LOG_ADVICE_FAULTS" true with
        ⟨l, hl, hlsets⟩ | ⟨raw, hl, hmisspells⟩
      · refine .inr ⟨?_, _, by rw [ofEnvironment, he, hd, hl]; rfl, ⟨e, rfl, hesets⟩,
          ⟨d, rfl, hdsets⟩, ⟨l, rfl, hlsets⟩, ?_⟩
        · simp [switches, hesets.not_misspells, hdsets.not_misspells, hlsets.not_misspells]
        · rw [variableOf]
          cases env.get? (variablePrefix ++ "DISABLED_MODULES") with
          | none => rfl
          | some raw => exact ⟨fun n => listable_of_mem, fun names => lists_iff⟩
      · refine .inl ⟨_, raw, ⟨hmisspells, ["ENABLED", "CAPTURE_DIAGNOSTICS"], [], rfl, ?_⟩, ?_⟩
        · simp [hesets.not_misspells, hdsets.not_misspells]
        · rw [ofEnvironment, he, hd, hl]
          rfl
    · refine .inl ⟨_, raw, ⟨hmisspells, ["ENABLED"], ["LOG_ADVICE_FAULTS"], rfl, ?_⟩, ?_⟩
      · simp [hesets.not_misspells]
      · rw [ofEnvironment, he, hd]
        rfl
  · refine .inl ⟨_, raw, ⟨hmisspells, [], _, rfl, by simp⟩, ?_⟩
    rw [ofEnvironment, he]
    rfl

/-- **Environment parsing.** Reading a configuration fails just if one of the switches is set to a
text that says none of the words, and the failure names the first of them in the order of reading.
If it does not fail, each setting is read from its own variable, and keeps its default if there is
none. The names that are read from a text are always such as can be listed; a text lists names of
that kind just if they are what is read from it; and if the agent is enabled, the modules of just
these names are not. -/
theorem environment_parsing (hlower : Lowers lower) (env : Table String) :
    (∀ f, ofEnvironment env = .error f ↔ ∃ setting raw, FirstMisspelled lower env setting raw ∧
      f = .notBoolean (variablePrefix ++ setting) raw) ∧
    (∀ setting raw, (Failure.notBoolean setting raw).kind = .value ∧
      (Failure.notBoolean setting raw).text =
        setting ++ " must be a boolean, got " ++ Text.quoted raw) ∧
    ((∀ s ∈ switches, ∀ t, ¬ Misspells lower (variableOf env s) t) →
      ∃ c, ofEnvironment env = .ok c ∧ ReadFrom lower env c ∧
        ∀ raw (names : Finset String), variableOf env "DISABLED_MODULES" = some raw →
          (∀ n ∈ names, Listable n) → Lists raw names → c.enabled = .bool true →
            ∀ n, c.isModuleEnabled n = false ↔ n ∈ names) := by
  refine ⟨fun f => ?_, fun setting raw => ⟨rfl, rfl⟩, fun hspelled => ?_⟩
  · rcases ofEnvironment_cases hlower env with ⟨setting, raw, hfirst, herror⟩ | ⟨hspelled, c, hc, -⟩
    · rw [herror]
      constructor
      · rintro h
        exact ⟨setting, raw, hfirst, (Except.error.inj h).symm⟩
      · rintro ⟨setting', raw', hfirst', rfl⟩
        obtain ⟨rfl, rfl⟩ := hfirst.unique hfirst'
        rfl
    · refine iff_of_false (by rw [hc]; exact nofun) ?_
      rintro ⟨setting, raw, ⟨hmisspells, earlier, later, hsplit, -⟩, -⟩
      exact hspelled setting (by simp [hsplit]) raw hmisspells
  · rcases ofEnvironment_cases hlower env with
      ⟨setting, raw, ⟨hmisspells, earlier, later, hsplit, -⟩, -⟩ | ⟨-, c, hc, hread⟩
    · exact absurd hmisspells (hspelled setting (by simp [hsplit]) raw)
    · refine ⟨c, hc, hread, fun raw names hvalue hnames hlists henabled n => ?_⟩
      have hdisabled := hread.disabledModules
      rw [hvalue] at hdisabled
      rw [isModuleEnabled_eq, henabled, ← ((hdisabled.2 names hnames).mp hlists) n]
      simp [Value.truthy]

/-- An environment with switches spelled in several ways, and a name that is listed twice. -/
def padded : Table String :=
  [("AGENTWEAVE_ENABLED", " On\n"), ("AGENTWEAVE_DISABLED_MODULES", " io ,, db\t,io, "),
    ("AGENTWEAVE_LOG_ADVICE_FAULTS", "0")]

/-- The text of a name, a blank piece, another name, the first one again and a blank piece. -/
theorem environment_parsing_of_padded :
    Lowers Text.lowerAscii ∧
      (∀ s ∈ switches, ∀ t, ¬ Misspells Text.lowerAscii (variableOf padded s) t) ∧
      (∀ n ∈ ({"io", "db"} : Finset String), Listable n) ∧
      Lists " io ,, db\t,io, " {"io", "db"} ∧
      ∃ c, ofEnvironment padded = .ok c ∧ c.enabled = .bool true ∧
        ReadFrom Text.lowerAscii padded c ∧
        ∀ n, c.isModuleEnabled n = false ↔ n ∈ ({"io", "db"} : Finset String) := by
  have hread : readNames " io ,, db\t,io, " = ["db", "io"] := by decide
  have hnames : ∀ n ∈ ({"io", "db"} : Finset String), Listable n := by
    intro n hn
    have hmem : n ∈ readNames " io ,, db\t,io, " := by
      rw [hread]
      simpa [or_comm] using hn
    exact listable_of_mem hmem
  have hlists : Lists " io ,, db\t,io, " {"io", "db"} := by
    refine (lists_iff hnames).mpr fun n => ?_
    rw [hread]
    simp [or_comm]
  have hon : Sets Text.lowerAscii (variableOf padded "ENABLED") true true :=
    ⟨"on", by decide, (says_iff lowers_lowerAscii (by decide)).mpr (by decide)⟩
  have habsent : Sets Text.lowerAscii (variableOf padded "CAPTURE_DIAGNOSTICS") false false := rfl
  have hoff : Sets Text.lowerAscii (variableOf padded "LOG_ADVICE_FAULTS") true false :=
    ⟨"0", by decide, (says_iff lowers_lowerAscii (by decide)).mpr (by decide)⟩
  have hspelled : ∀ s ∈ switches, ∀ t, ¬ Misspells Text.lowerAscii (variableOf padded s) t := by
    simp [switches, hon.not_misspells, habsent.not_misspells, hoff.not_misspells]
  obtain ⟨c, hc, hfrom, hdisabled⟩ :=
    (environment_parsing lowers_lowerAscii padded).2.2 hspelled
  have henabled : c.enabled = .bool true := by
    have hread : ofEnvironment padded = .ok ⟨.bool true, ["db", "io"], .bool false, .bool false⟩ :=
      rfl
    rw [Except.ok.inj (hc.symm.trans hread)]
  exact ⟨lowers_lowerAscii, hspelled, hnames, hlists, c, hc, henabled, hfrom,
    hdisabled _ _ rfl hnames hlists henabled⟩

end AspectAgent.AgentConfig
