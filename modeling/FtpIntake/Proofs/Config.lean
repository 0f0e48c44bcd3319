import FtpIntake.Config
import FtpIntake.Proofs.Setting
import FtpIntake.Proofs.Text.Case
import FtpIntake.Proofs.Text.Numeral

/-!
# Configured ports

A port is configured as a whole number, or as a text of one, in the files or in the environment, and the last source
that says anything about it counts. Negative numbers are refused. Of all others the low sixteen bits are taken, before
the rules between the values are checked, so a number that is too large for a port is never refused for that: it stands
for another port.

* **`Setting.IsNumber.eq_of_toNat`**: a number is never taken for another one before it becomes a port.
* **`Config.ofSettings_congr`**: a port counts in a configuration by its low sixteen bits alone.
* **`Config.loaded_port`** puts these together, and **`Config.large_port_is_taken`** is the case of a number that is too
  large.

The three fields with ports are one family with the field as a parameter. What is shown of the other fields is only
that they do not depend on the port.
-/

namespace FtpIntake

open Text

/-! ## Numbers

A port may be given as a number or as a text, and the text may have a sign or zeros in front. All of these are one
number for the statement. -/

namespace Text

/-- Digits are read as the number that they say, with a plus sign in front or without one. -/
theorem readUnsigned_of_digits {max : Nat} {s digits : List Char} (hs : s = digits ∨ s = '+' :: digits)
    (hne : digits ≠ []) (hdigits : ∀ c ∈ digits, c.isDigit = true) :
    readUnsigned max s = atMost max (Nat.ofDigitChars 10 digits 0) := by
  have hread : readDigits digits = some (Nat.ofDigitChars 10 digits 0) := if_pos ⟨hne, List.all_eq_true.2 hdigits⟩
  have hplus : ∀ r, digits ≠ '+' :: r := by
    rintro r rfl
    exact absurd (hdigits '+' List.mem_cons_self) (by decide)
  unfold readUnsigned
  rcases hs with rfl | rfl
  · split
    · next r => exact absurd rfl (hplus r)
    · rw [hread, Option.bind_eq_bind, Option.bind_some]
  · show (readDigits digits >>= atMost max) = _
    rw [hread, Option.bind_eq_bind, Option.bind_some]

end Text

namespace Setting

/-- The whole number that a setting is: the number itself, or a text of its digits with a sign or without. -/
inductive IsNumber : Setting → Int → Prop
  | integer (v : Int) : IsNumber (.integer v) v
  | text {text : String} {digits : List Char} (htext : text.toList = digits ∨ text.toList = '+' :: digits)
      (hne : digits ≠ []) (hdigits : ∀ c ∈ digits, c.isDigit = true) :
      IsNumber (.text text) (Nat.ofDigitChars 10 digits 0)
  | negative {text : String} {digits : List Char} (htext : text.toList = '-' :: digits) (hne : digits ≠ [])
      (hdigits : ∀ c ∈ digits, c.isDigit = true) : IsNumber (.text text) (-(Nat.ofDigitChars 10 digits 0 : Int))

/-- The words for yes and no begin with a letter. -/
theorem truthOf?_eq_none {s : List Char} (h : ∀ c ∈ s.head?, c.isDigit = true ∨ c = '+' ∨ c = '-') :
    truthOf? (String.ofList (s.map Char.toLower)) = none := by
  -- every word for a truth value begins with a letter, and lower case letters come behind all digits and signs
  have hletter : ∀ word ∈ ["true", "on", "yes", "false", "off", "no"],
      ∃ c, word.toList.head? = some c ∧ 97 ≤ c.toNat := by simp
  have hnot : String.ofList (s.map Char.toLower) ∉ ["true", "on", "yes", "false", "off", "no"] := by
    intro hword
    obtain ⟨c, hc, hlarge⟩ := hletter _ hword
    rw [String.toList_ofList, List.head?_map, Option.map_eq_some_iff] at hc
    obtain ⟨d, hd, rfl⟩ := hc
    have hsmall : d.toNat < 58 := by
      rcases h d hd with hdigit | rfl | rfl
      · rw [Char.isDigit_iff_toNat] at hdigit
        exact Nat.lt_succ_of_le hdigit.2
      · decide
      · decide
    rw [toNat_toLower, if_neg (by omega)] at hlarge
    omega
  simp only [List.mem_cons, List.not_mem_nil, or_false, not_or] at hnot
  rw [truthOf?, if_neg (by simp [hnot]), if_neg (by simp [hnot])]

/-- A text that begins like a number and is taken for one is read by its digits, and by nothing else. -/
theorem readUnsigned_of_toNat {text : String} {n : Nat}
    (hhead : ∀ c ∈ text.toList.head?, c.isDigit = true ∨ c = '+' ∨ c = '-') (h : toNat (.text text) = .ok n) :
    readUnsigned maxUnsigned64 text.toList = some n := by
  rw [toNat, truthOf?_eq_none hhead] at h
  cases hread : readUnsigned maxUnsigned64 text.toList with
  | none =>
    rw [hread] at h
    cases h
  | some m =>
    rw [hread] at h
    cases h
    rfl

/-- **A number is not taken for another one,** if it is taken at all. -/
theorem IsNumber.eq_of_toNat {setting : Setting} {v : Int} (h : setting.IsNumber v) {n : Nat}
    (hn : setting.toNat = .ok n) : v = n := by
  cases h with
  | integer v =>
    rw [toNat] at hn
    split at hn
    · next hnonneg =>
      cases hn
      exact (Int.toNat_of_nonneg hnonneg).symm
    · cases hn
  | @text text digits htext hne hdigits =>
    have hhead : ∀ c ∈ text.toList.head?, c.isDigit = true ∨ c = '+' ∨ c = '-' := by
      rcases htext with htext | htext
      · exact fun c hc => .inl (hdigits c (htext ▸ List.mem_of_head? hc))
      · rw [htext]
        rintro c ⟨⟩
        exact .inr (.inl rfl)
    have hread := readUnsigned_of_toNat hhead hn
    rw [readUnsigned_of_digits htext hne hdigits, atMost, Option.ite_none_right_eq_some] at hread
    exact congrArg Int.ofNat (Option.some.inj hread.2)
  | @negative text digits htext hne hdigits =>
    have hhead : ∀ c ∈ text.toList.head?, c.isDigit = true ∨ c = '+' ∨ c = '-' := by
      rw [htext]
      rintro c ⟨⟩
      exact .inr (.inr rfl)
    -- an unsigned numeral has no minus sign in it
    have hread := readUnsigned_of_toNat hhead hn
    rw [htext] at hread
    cases hread

/-- A number is no table. -/
theorem IsNumber.ne_table {setting : Setting} {v : Int} (h : setting.IsNumber v) :
    ∀ entries, setting ≠ .table entries := by
  rintro entries rfl
  cases h

end Setting

/-! ## Ports

There are three fields with ports, and they are treated alike, so the field is a parameter. -/

namespace Config

/-- The fields of a configuration that are ports. -/
inductive PortField where
  | control
  | dataMin
  | dataMax

namespace PortField

/-- What the field is called in the sources. -/
def name : PortField → String
  | control => "control_port"
  | dataMin => "data_port_min"
  | dataMax => "data_port_max"

/-- The port in a configuration. -/
def port : PortField → Config → UInt16
  | control, config => config.controlPort
  | dataMin, config => config.dataPortMin
  | dataMax, config => config.dataPortMax

/-- The name of a port is a path of one step. -/
theorem ofString_name (f : PortField) : KeyPath.ofString f.name = ⟨f.name, []⟩ := by
  cases f <;> decide +kernel

end PortField

theorem exists_of_isOk {ε α : Type} {x : Except ε α} (h : x.isOk = true) : ∃ a, x = .ok a := by
  cases x with
  | error => cases h
  | ok a => exact ⟨a, rfl⟩

/-- What is made in two steps is made if both can be. -/
theorem bind_eq_ok_iff {ε α β : Type} {x : Except ε α} {f : α → Except ε β} {b : β} :
    (x >>= f) = .ok b ↔ ∃ a, x = .ok a ∧ f a = .ok b := by
  cases x <;> simp [bind, Except.bind]

/-- A configuration that was made of settings has the ports that the settings give. -/
theorem field_of_ofSettings {settings : Settings} {config : Config} (h : ofSettings settings = .ok config)
    (f : PortField) : ∃ default, field settings f.name toPort default = .ok (f.port config) := by
  unfold ofSettings at h
  simp only [bind_eq_ok_iff] at h
  obtain ⟨_, -, _, hcontrol, _, hmin, _, hmax, _, -, _, -, _, -, _, -, _, -, _, -, _, -, _, -, h⟩ := h
  cases h
  cases f with
  | control => exact ⟨_, hcontrol⟩
  | dataMin => exact ⟨_, hmin⟩
  | dataMax => exact ⟨_, hmax⟩

/-- Settings that differ in a port only, and give the same port there, make the same configuration. -/
theorem ofSettings_congr {settings settings' : Settings} (f : PortField)
    (hothers : ∀ name ≠ f.name, settings.get? name = settings'.get? name)
    (hport : ∀ default, field settings f.name toPort default = field settings' f.name toPort default) :
    ofSettings settings = ofSettings settings' := by
  have hfield : ∀ {α : Type} (name : String) (convert : Setting → Except ConfigFault α) (default : α),
      name ≠ f.name → field settings name convert default = field settings' name convert default := by
    intro α name convert default hname
    rw [field, field, hothers name hname]
  unfold ofSettings
  cases f <;> dsimp only [PortField.name] at hport hfield <;> simp (disch := decide) only [hport, hfield]

/-- What is taken of a number is its low sixteen bits. -/
theorem toNat_port {setting : Setting} {v : Int} (hv : setting.IsNumber v) {port : UInt16}
    (h : toPort setting = .ok port) : 0 ≤ v ∧ (port.toNat : Int) = v % 65536 := by
  unfold toPort at h
  cases hn : setting.toNat with
  | error fault =>
    rw [hn] at h
    cases h
  | ok n =>
    rw [hn] at h
    cases h
    rw [hv.eq_of_toNat hn, UInt16.toNat_ofNat']
    omega

/-- **Of a number only the low sixteen bits make the port.** -/
theorem toPort_congr {v w : Int} (hv : 0 ≤ v) (hw : 0 ≤ w) (h : v % 65536 = w % 65536) :
    toPort (.integer v) = toPort (.integer w) := by
  have hbits : UInt16.ofNat v.toNat = UInt16.ofNat w.toNat := by
    rw [← UInt16.toNat_inj, UInt16.toNat_ofNat', UInt16.toNat_ofNat']
    omega
  simp only [toPort, Setting.toNat, if_pos hv, if_pos hw, Except.map, hbits]

/-! ## Loading

The sources are written over each other by field, so all that counts is the last one that names the port. The other
fields may have any values, also ones that make loading fail. -/

/-- The files are well formed, and the last source that says anything about a port gives it this value. -/
def Sources.Gives (sources : Sources) (f : PortField) (setting : Setting) : Prop :=
  ∃ shared own, fileSettings sources.sharedFile = .ok shared ∧ fileSettings sources.localFile = .ok own ∧
    Settings.LastWord [shared, own, Settings.ofEnvironment sources.environment] f.name setting

/-- What is written to all fields but one is the same. -/
def Sources.AgreeExcept (name : String) (sources sources' : Sources) : Prop :=
  ∀ settings settings', sources.settings = .ok settings → sources'.settings = .ok settings' →
    ∀ other ≠ name, settings.get? other = settings'.get? other

/-- The setting that the last source gives is the one that is found in the end. -/
theorem Sources.Gives.get?_settings {sources : Sources} {f : PortField} {setting : Setting}
    (h : sources.Gives f setting) (hplain : ∀ entries, setting ≠ .table entries) :
    ∃ settings, sources.settings = .ok settings ∧ settings.get? f.name = some setting := by
  obtain ⟨shared, own, hshared, hown, hlast⟩ := h
  refine ⟨Settings.overwritten [shared, own, Settings.ofEnvironment sources.environment], ?_,
    Settings.get?_overwritten hlast f.ofString_name hplain⟩
  rw [Sources.settings, hshared, hown]
  rfl

/-- Loading is reading the settings and then checking what was made of them. -/
theorem load_of_settings {sources : Sources} {settings : Settings} (h : sources.settings = .ok settings) :
    load sources = ofSettings settings >>= fun config => config.check >>= fun _ => .ok config := by
  rw [load, h]
  rfl

/-- **A loaded port is the configured number, as far as it has room for it.** -/
theorem port_of_load {sources : Sources} {f : PortField} {setting : Setting} {v : Int} (h : sources.Gives f setting)
    (hv : setting.IsNumber v) {config : Config} (hload : load sources = .ok config) :
    0 ≤ v ∧ ((f.port config).toNat : Int) = v % 65536 := by
  obtain ⟨settings, hsettings, hget⟩ := h.get?_settings hv.ne_table
  rw [load_of_settings hsettings, bind_eq_ok_iff] at hload
  obtain ⟨config, hmade, hchecked⟩ := hload
  obtain ⟨-, -, ⟨⟩⟩ := bind_eq_ok_iff.1 hchecked
  obtain ⟨default, hfield⟩ := field_of_ofSettings hmade f
  rw [field, hget] at hfield
  exact toNat_port hv hfield

/-- A number is refused or taken just as any other one with the same low sixteen bits. -/
theorem load_congr {sources sources' : Sources} {f : PortField} {v w : Int} (h : sources.Gives f (.integer v))
    (h' : sources'.Gives f (.integer w)) (hothers : sources.AgreeExcept f.name sources') (hv : 0 ≤ v) (hw : 0 ≤ w)
    (hbits : v % 65536 = w % 65536) : load sources = load sources' := by
  obtain ⟨settings, hsettings, hget⟩ := h.get?_settings nofun
  obtain ⟨settings', hsettings', hget'⟩ := h'.get?_settings nofun
  have hsame : ofSettings settings = ofSettings settings' := by
    refine ofSettings_congr f (hothers settings settings' hsettings hsettings') fun default => ?_
    rw [field, field, hget, hget']
    exact toPort_congr hv hw hbits
  rw [load_of_settings hsettings, load_of_settings hsettings', hsame]

/--
**What becomes of a configured port.** Let the last source that says anything about a port give it a number. If the
number is negative, nothing is loaded. What is loaded otherwise has the low sixteen bits of the number for its port,
which is the number itself just if this is a port. And two numbers that are not given as texts, and have the same low
sixteen bits, cannot be told apart by what is loaded, so that none of these is refused for being too large.
-/
theorem loaded_port {sources : Sources} {f : PortField} {setting : Setting} {v : Int} (h : sources.Gives f setting)
    (hv : setting.IsNumber v) :
    (v < 0 → ∃ fault, load sources = .error fault) ∧
      (∀ config, load sources = .ok config →
        ((f.port config).toNat : Int) = v % 65536 ∧ (((f.port config).toNat : Int) = v ↔ v ≤ 65535)) ∧
      ∀ (sources' : Sources) (w : Int), setting = .integer v → sources'.Gives f (.integer w) →
        sources.AgreeExcept f.name sources' → 0 ≤ v → 0 ≤ w → v % 65536 = w % 65536 →
          load sources = load sources' := by
  refine ⟨fun hneg => ?_, fun config hload => ?_, ?_⟩
  · cases hload : load sources with
    | error fault => exact ⟨fault, rfl⟩
    | ok config => exact absurd (port_of_load h hv hload).1 (Int.not_le.2 hneg)
  · obtain ⟨hnonneg, hport⟩ := port_of_load h hv hload
    exact ⟨hport, by omega⟩
  · rintro sources' w rfl h' hothers hnonneg hw hbits
    exact load_congr h h' hothers hnonneg hw hbits

/-! ## A number that is too large

A number above 65535 is not refused. What is kept of it are its low sixteen bits. -/

/-- A variable of the environment gives one setting. -/
theorem ofEnvironment_controlPort {text : String} {v : Int} (h : Setting.ofText text = .integer v) :
    Settings.ofEnvironment [("LISTEN_FTP_CONTROL_PORT", text)] = [("control_port", .integer v)] := by
  have hours : Settings.environmentPrefix.isPrefixOf ("LISTEN_FTP_CONTROL_PORT".toList.map Settings.lowerNameChar) := by
    decide
  have hname : String.ofList (replaceAll "__".toList ".".toList
      (("LISTEN_FTP_CONTROL_PORT".toList.map Settings.lowerNameChar).drop Settings.environmentPrefix.length)) =
      "control_port" := by
    decide +kernel
  have hvariable : Settings.ofVariable? "LISTEN_FTP_CONTROL_PORT" text = some ("control_port", .integer v) := by
    rw [Settings.ofVariable?, if_pos hours, hname, h]
  simp [Settings.ofEnvironment, hvariable, Fields.put]

/-- Two files, and an environment that has the control port only. -/
def withControlPort (sharedFile localFile : Option String) (text : String) : Sources :=
  ⟨sharedFile, localFile, [("LISTEN_FTP_CONTROL_PORT", text)]⟩

section WithControlPort

variable {sharedFile localFile : Option String} {shared own : Settings} {text text' : String} {v w : Int}

/-- The environment has the last word, whatever stands in the files. -/
theorem gives_withControlPort (hshared : fileSettings sharedFile = .ok shared)
    (hlocal : fileSettings localFile = .ok own) (h : Setting.ofText text = .integer v) :
    (withControlPort sharedFile localFile text).Gives .control (.integer v) := by
  refine ⟨shared, own, hshared, hlocal, [shared, own], _, [], rfl, ?_, nofun⟩
  rw [withControlPort, ofEnvironment_controlPort h]
  exact Settings.gives_single (PortField.ofString_name .control)

/-- Two sets of sources that differ in one variable agree about all other settings. -/
theorem agreeExcept_withControlPort (hshared : fileSettings sharedFile = .ok shared)
    (hlocal : fileSettings localFile = .ok own) (h : Setting.ofText text = .integer v)
    (h' : Setting.ofText text' = .integer w) :
    (withControlPort sharedFile localFile text).AgreeExcept "control_port"
      (withControlPort sharedFile localFile text') := by
  intro settings settings' hsettings hsettings' other hother
  rw [Sources.settings, withControlPort, hshared, hlocal, ofEnvironment_controlPort h] at hsettings
  rw [Sources.settings, withControlPort, hshared, hlocal, ofEnvironment_controlPort h'] at hsettings'
  cases hsettings
  cases hsettings'
  have hname : KeyPath.ofString "control_port" = ⟨"control_port", []⟩ := PortField.ofString_name .control
  rw [Settings.get?_writeAll_of_not_names (Settings.not_names_single hname hother),
    Settings.get?_writeAll_of_not_names (Settings.not_names_single hname hother)]

end WithControlPort

/-- No port has the number 70000, and still a configuration is loaded, with another port. -/
theorem large_port_is_taken :
    let sources := withControlPort none none "70000"
    sources.Gives .control (.integer 70000) ∧
      ∃ config, load sources = .ok config ∧ (PortField.control.port config).toNat = 4464 := by
  intro sources
  have htext : Setting.ofText "70000" = .integer 70000 := by rfl
  exact ⟨gives_withControlPort rfl rfl htext, { controlPort := 4464 }, by decide +kernel, rfl⟩

/-- Three sources, of which the last one counts, and the same with the port that its number stands for. -/
theorem loaded_port_of_three_sources :
    let sources := withControlPort (some "control_port = 2200") (some "control_port = \"+8080\"") "70000"
    let sources' := withControlPort (some "control_port = 2200") (some "control_port = \"+8080\"") "4464"
    sources.Gives .control (.integer 70000) ∧ sources'.Gives .control (.integer 4464) ∧
      sources.AgreeExcept "control_port" sources' ∧
      (∀ config, load sources = .ok config → config.controlPort.toNat = 4464) ∧ load sources = load sources' ∧
      load sources = .ok { controlPort := 4464 } ∧
      ∃ fault, load (withControlPort none none "-1") = .error fault := by
  intro sources sources'
  have hread : ∀ file ∈ ["control_port = 2200", "control_port = \"+8080\""],
      (fileSettings (some file)).isOk = true := by
    decide +kernel
  obtain ⟨shared, hshared⟩ := exists_of_isOk (hread _ List.mem_cons_self)
  obtain ⟨own, hown⟩ := exists_of_isOk (hread _ (List.mem_cons_of_mem _ List.mem_cons_self))
  have htext : Setting.ofText "70000" = .integer 70000 := by rfl
  have htext' : Setting.ofText "4464" = .integer 4464 := by rfl
  -- the environment has the last word, and the files are looked at for whether they can be read
  have hgives : sources.Gives .control (.integer 70000) := gives_withControlPort hshared hown htext
  have hgives' : sources'.Gives .control (.integer 4464) := gives_withControlPort hshared hown htext'
  have hothers : sources.AgreeExcept "control_port" sources' := agreeExcept_withControlPort hshared hown htext htext'
  obtain ⟨-, hport, hsame⟩ := loaded_port hgives (.integer 70000)
  have hminus : (withControlPort none none "-1").Gives .control (.integer (-1)) :=
    gives_withControlPort rfl rfl (by rfl)
  have hnegative := loaded_port hminus (.integer (-1))
  refine ⟨hgives, hgives', hothers, fun config hload => ?_, ?_, by decide +kernel, hnegative.1 (by decide)⟩
  · have hbits : (config.controlPort.toNat : Int) = 70000 % 65536 := (hport config hload).1
    omega
  · exact hsame sources' 4464 rfl hgives' hothers (by decide) (by decide) (by decide)

end Config

end FtpIntake
