import FtpIntake.Setting.KeyPath
import Mathlib.Data.List.Induction

/-!
# The last word on a field

Sources are written over one another entry by entry, and the name of an entry may lead below a field, to a part of it.
Still a field is only changed by the entries whose names begin at it, so what it is in the end is told by these alone.

* **`KeyPath.get?_write`**: a write changes the field where its place begins, and no other.
* **`Settings.get?_writeAll`**: what a field is after a source, told by the entries that begin at it.
* **`Settings.get?_overwritten`**: where the last source that says anything on a field gives it one value, the field has
  this value, whatever the sources before it say.

A table is not a single value: it is written field by field and leaves what it does not name. So the statement asks
that the value be no table.
-/

namespace FtpIntake

namespace KeyPath

/-- What a write leaves in the field where its place begins, by what was there before. -/
def placed (path : KeyPath) (value : Setting) (there : Option Setting) : Setting :=
  match path.steps, value with
  | [], .table entries => Setting.assignAll entries (there.getD (.table []))
  | [], value => value
  | next :: rest, value => writeSteps next rest value (there.getD .missing)

/-- A write puts something at the field where its place begins, by what is there already. -/
theorem write_eq (path : KeyPath) (value : Setting) (settings : Settings) :
    path.write value settings = settings.put path.name (path.placed value (settings.get? path.name)) := by
  obtain ⟨name, steps⟩ := path
  cases steps with
  | nil => cases value <;> simp [write, writeSteps, Setting.assign, Setting.fields, placed]
  | cons next rest => simp [write, writeSteps, Setting.fields, placed]

/-- **A write changes one field,** and what it makes of it depends on nothing else. -/
theorem get?_write (path : KeyPath) (value : Setting) (settings : Settings) (name : String) :
    (path.write value settings).get? name =
      if name = path.name then some (path.placed value (settings.get? name)) else settings.get? name := by
  rw [write_eq, Fields.get?_put]
  split
  · next heq => rw [heq]
  · rfl

end KeyPath

namespace Settings

/-- The field at which the place of an entry begins. -/
def leadsTo (name : String) (entry : String × Setting) : Bool :=
  (KeyPath.ofString entry.1).name == name

/-- What an entry leaves in the field where its place begins. -/
def leave (there : Option Setting) (entry : String × Setting) : Option Setting :=
  some ((KeyPath.ofString entry.1).placed entry.2 there)

theorem writeAll_cons (entry : String × Setting) (source settings : Settings) :
    writeAll (entry :: source) settings = writeAll source ((KeyPath.ofString entry.1).write entry.2 settings) := rfl

/-- **What a field is after a source** is told by the entries that begin at it. Induction on the entries. -/
theorem get?_writeAll (source settings : Settings) (name : String) :
    (source.writeAll settings).get? name = (source.filter (leadsTo name)).foldl leave (settings.get? name) := by
  induction source generalizing settings with
  | nil => rfl
  | cons entry source ih =>
    rw [writeAll_cons, ih, KeyPath.get?_write]
    by_cases hleads : leadsTo name entry = true
    · have hname : name = (KeyPath.ofString entry.1).name := (beq_iff_eq.1 hleads).symm
      rw [if_pos hname, List.filter_cons_of_pos hleads]
      rfl
    · have hname : name ≠ (KeyPath.ofString entry.1).name := fun heq => hleads (beq_iff_eq.2 heq.symm)
      rw [if_neg hname, List.filter_cons_of_neg hleads]

/-! ## Sources that give a field one value

A source may name a field more than once, and each of its entries is written over the one before. What is asked for
here is only that all of them say the same. -/

/-- A source says something about a field. -/
def Names (source : Settings) (name : String) : Prop :=
  ∃ entry ∈ source, leadsTo name entry = true

/-- All that a source says about a field is that it has a certain value. -/
structure Gives (source : Settings) (name : String) (setting : Setting) : Prop where
  named : source.Names name
  only : ∀ entry ∈ source, leadsTo name entry = true → entry = (name, setting)

/-- Of some sources, the first of which is written first, the last one that says anything about a field gives it a
value. -/
def LastWord (sources : List Settings) (name : String) (setting : Setting) : Prop :=
  ∃ before source after, sources = before ++ source :: after ∧ source.Gives name setting ∧
    ∀ later ∈ after, ¬later.Names name

/-! A source that has a single field, whose name leads no further. -/

section Single

variable {name : String} {setting : Setting}

/-- An entry with a plain name leads to the field of that name. -/
theorem leadsTo_iff (hname : KeyPath.ofString name = ⟨name, []⟩) {other : String} :
    leadsTo other (name, setting) = true ↔ name = other := by
  rw [leadsTo, hname, beq_iff_eq]

/-- A source of one entry gives its field that value. -/
theorem gives_single (hname : KeyPath.ofString name = ⟨name, []⟩) : Gives [(name, setting)] name setting :=
  ⟨⟨_, List.mem_cons_self, (leadsTo_iff hname).2 rfl⟩, fun _ hentry _ => List.mem_singleton.1 hentry⟩

/-- And says nothing about any other field. -/
theorem not_names_single (hname : KeyPath.ofString name = ⟨name, []⟩) {other : String} (h : other ≠ name) :
    ¬Names [(name, setting)] other := by
  rintro ⟨entry, hentry, hleads⟩
  obtain rfl := List.mem_singleton.1 hentry
  exact h ((leadsTo_iff hname).1 hleads).symm

end Single

/-- A source that does not name a field leaves it as it was. Induction on its entries. -/
theorem get?_writeAll_of_not_names {source : Settings} {name : String} (h : ¬source.Names name)
    (settings : Settings) : (source.writeAll settings).get? name = settings.get? name := by
  have hnone : source.filter (leadsTo name) = [] :=
    List.filter_eq_nil_iff.2 fun entry hentry hleads => h ⟨entry, hentry, hleads⟩
  rw [get?_writeAll, hnone, List.foldl_nil]

/-- A value that is no table replaces whatever was there. -/
theorem leave_of_plain {name : String} {setting : Setting} (hname : KeyPath.ofString name = ⟨name, []⟩)
    (hplain : ∀ entries, setting ≠ .table entries) (there : Option Setting) :
    leave there (name, setting) = some setting := by
  rw [leave, hname, KeyPath.placed]
  · rfl
  · exact fun entries htable => hplain entries htable

/-- A source that gives a field one value leaves it with this value, whatever it was before. -/
theorem get?_writeAll_of_gives {source : Settings} {name : String} {setting : Setting}
    (h : source.Gives name setting) (hname : KeyPath.ofString name = ⟨name, []⟩)
    (hplain : ∀ entries, setting ≠ .table entries) (settings : Settings) :
    (source.writeAll settings).get? name = some setting := by
  obtain ⟨entry, hentry, hleads⟩ := h.named
  have hsome : source.filter (leadsTo name) ≠ [] :=
    List.ne_nil_of_mem (List.mem_filter.2 ⟨hentry, hleads⟩)
  obtain ⟨hmem, hleads⟩ := List.mem_filter.1 (List.getLast_mem hsome)
  -- what the last of the entries leaves does not depend on the others
  rw [get?_writeAll, ← List.dropLast_concat_getLast hsome, List.foldl_append, h.only _ hmem hleads]
  exact leave_of_plain hname hplain _

/-- Sources written over one another, the first one first. -/
def overwritten (sources : List Settings) : Settings :=
  sources.foldl (fun settings source => source.writeAll settings) []

/-- **The last word on a field is what the field is.** Induction on the sources behind the one that has it. -/
theorem get?_overwritten {sources : List Settings} {name : String} {setting : Setting}
    (h : LastWord sources name setting) (hname : KeyPath.ofString name = ⟨name, []⟩)
    (hplain : ∀ entries, setting ≠ .table entries) : (overwritten sources).get? name = some setting := by
  obtain ⟨before, source, after, rfl, hgives, hsilent⟩ := h
  induction after using List.reverseRecOn with
  | nil =>
    rw [overwritten, List.foldl_append]
    exact get?_writeAll_of_gives hgives hname hplain _
  | append_singleton after last ih =>
    obtain ⟨hafter, hlast⟩ := List.forall_mem_append.1 hsilent
    rw [overwritten, ← List.cons_append, ← List.append_assoc, List.foldl_append, List.foldl_cons,
      List.foldl_nil, get?_writeAll_of_not_names (hlast last List.mem_cons_self)]
    exact ih hafter

end Settings

end FtpIntake
