import GpuQuota.Config.Environment
import GpuQuota.Diagnostics.Directive

/-!
# Diagnostics

Which events a process writes to its log. The workload sets one level; a filter of directives, one
for each part of the program, takes precedence where it is given.

A directive that asks for a span or a field can let an event through only within a span. No part of
the program enters one, but whether it did has to be looked up for each event that such a directive
might let through. Where its field says enough without a span, it also decides about single events.

The module introduces:

* `LogEvent` — an event, as far as a filter looks at it.
* `LogFilter`, `LogFilter.decisive?` — directives, and the one that decides about an event.
* `LogFilter.admits`, `LogFilter.examines` — the events that are written, and those for which the log
  is consulted at all; `LogFilter.exists_of_admits` finds the directive that lets one through.
* `LogFilter.ofEnvironment` — the filter of a process.
-/

namespace GpuQuota

/-- An event that a part of the program reports. -/
structure LogEvent where
  /-- The name of the part. -/
  target : String
  /-- How grave it is. -/
  level : LogLevel
  /-- The names of its fields. -/
  fields : List String
  deriving DecidableEq, Repr

namespace LogDirective

/-- The directive is about an event: the target fits, and there is the field it asks for. -/
def caresAbout (d : LogDirective) (e : LogEvent) : Bool :=
  d.target.all (·.isPrefixOf e.target.toList) &&
    d.field.all fun f => e.fields.contains (String.ofList f.name)

/-- The length of the target, with a given one before none. -/
def targetLength (d : LogDirective) : Nat := (d.target.map (·.length + 1)).getD 0

/-- The second directive goes before the first: its target is longer, or else it asks for a field
where the first asks for none or for one of a smaller name. A later directive goes before an equal
one. -/
def yieldsTo (a b : LogDirective) : Bool :=
  if a.targetLength ≠ b.targetLength then a.targetLength < b.targetLength
  else
    match a.field, b.field with
    | none, _ => true
    | some _, none => false
    | some f, some g => !g.name.lex f.name fun a b => decide (a < b)

end LogDirective

/-- Directives in the order they were given. -/
structure LogFilter where
  /-- The directives. -/
  directives : List LogDirective
  deriving DecidableEq, Repr

namespace LogFilter

/-- Everything up to a level. -/
def upTo (level : LogLevel) : LogFilter := ⟨[{ level }]⟩

/-- Reads directives separated by commas. One that cannot be read spoils them all. Without any
directive nothing is let through. -/
def ofText? (text : String) : Option LogFilter :=
  (((Text.pieces ',' text.toList).filter (· ≠ [])).mapM LogDirective.ofText?).map (⟨·⟩)

/-- The directive that decides about an event without a span. -/
def decisive? (f : LogFilter) (e : LogEvent) : Option LogDirective :=
  (f.directives.filter fun d => d.isStatic && d.caresAbout e).foldl
    (fun best d => if best.all (·.yieldsTo d) then some d else best) none

/-- The directive that decides about an event is one of the filter and is about the event. -/
theorem mem_of_decisive? {f : LogFilter} {e : LogEvent} {d : LogDirective}
    (h : f.decisive? e = some d) : d ∈ f.directives ∧ d.caresAbout e = true := by
  -- The fold keeps what it started with or takes one of the directives that it runs over.
  have fold (ds : List LogDirective) (best : Option LogDirective)
      (hd : ds.foldl (fun best d => if best.all (·.yieldsTo d) then some d else best) best = some d) :
      d ∈ ds ∨ best = some d := by
    induction ds generalizing best with
    | nil => exact .inr hd
    | cons x xs ih =>
      rcases ih _ hd with hx | hx
      · exact .inl (List.mem_cons_of_mem _ hx)
      · dsimp only at hx
        split at hx
        · exact .inl (by simp [Option.some.inj hx])
        · exact .inr hx
  have hm := (fold _ _ h).resolve_right (by simp)
  simp only [List.mem_filter, Bool.and_eq_true] at hm
  exact ⟨hm.1, hm.2.2⟩

/-- An event is written. -/
def admits (f : LogFilter) (e : LogEvent) : Bool :=
  (f.decisive? e).any (·.level.includes e.level)

/-- No event is written that no directive of the filter is about and lets through. -/
theorem exists_of_admits {f : LogFilter} {e : LogEvent} (h : f.admits e = true) :
    ∃ d ∈ f.directives, d.caresAbout e = true ∧ d.level.includes e.level = true := by
  obtain ⟨d, hd, hlevel⟩ := (Option.any_eq_true _ _).1 h
  obtain ⟨hmem, hcares⟩ := mem_of_decisive? hd
  exact ⟨d, hmem, hcares, hlevel⟩

/-- An event is written, or the spans are looked up to decide whether it is. -/
def examines (f : LogFilter) (e : LogEvent) : Bool :=
  f.admits e || f.directives.any fun d => d.isDynamic && d.level.includes e.level

/-- The filter of a process: its directives if they can be read, else the level that is set. -/
def ofEnvironment (env : Environment) : LogFilter :=
  match (env.text? "RUST_LOG").bind ofText? with
  | some f => f
  | none =>
    upTo (.ofSetting (env.integer? (-0x80000000) 0x7FFFFFFF "LIBCUDA_LOG_LEVEL"))

/-- A directive for a level writes the events up to it. -/
theorem admits_upTo (level : LogLevel) (e : LogEvent) :
    (upTo level).admits e = level.includes e.level := by
  simp [admits, decisive?, upTo, LogDirective.isStatic, LogDirective.caresAbout]

end LogFilter

end GpuQuota
