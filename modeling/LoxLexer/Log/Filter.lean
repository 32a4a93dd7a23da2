import LoxLexer.Log.Directive

/-! # Choosing log events

A filter is a list of directives. Of several that cover an event the one with the longest target
decides; of equally long ones, one that asks for a field goes before one that does not, and the
later before the earlier. An event that none covers is not shown.

* `Filter.parse?`: the filter written as directives joined by commas.
* `Filter.shows`: whether an event is shown.
-/

set_option autoImplicit false

namespace LoxLexer

namespace Log

structure Filter where
  directives : List Directive
deriving DecidableEq

/-- The event is at the level or more severe. -/
def Event.isWithin (event : Event) (level : Option Level) : Bool :=
  level.any fun l => decide (event.level.rank ≤ l.rank)

/-! ## Choosing -/

/-- Whether a directive gives way to a later one that covers the same event. Two fields are told
apart by their order. -/
def Directive.yields (d later : Directive) : Bool :=
  decide (d.target.length < later.target.length) ||
    (decide (d.target.length = later.target.length) &&
      match d.field, later.field with
      | none, _ => true
      | some _, none => false
      | some a, some b => !decide (b < a))

namespace Filter

/-- The filter that treats all events alike, and shows none of them without a level. -/
def ofLevel (level : Option Level) : Filter := ⟨[{ level := level }]⟩

/-- The directive that decides, of the best so far and the next. -/
def prefer (best : Option Directive) (d : Directive) : Option Directive :=
  match best with
  | none => some d
  | some b => if b.yields d then some d else some b

def directive? (f : Filter) (e : Event) : Option Directive :=
  (f.directives.filter (·.covers e)).foldl prefer none

/-- The level up to which events such as this one are shown. -/
def levelFor? (f : Filter) (e : Event) : Option Level :=
  (f.directive? e).bind Directive.level

def shows (f : Filter) (e : Event) : Bool :=
  match f.levelFor? e with
  | none => false
  | some level => decide (e.level.rank ≤ level.rank)

/-- A filter that treats all events alike shows one by its level alone. -/
theorem shows_ofLevel (level : Option Level) (e : Event) :
    (ofLevel level).shows e = e.isWithin level := by
  cases level <;>
    simp [shows, levelFor?, directive?, ofLevel, Directive.covers, prefer, Event.isWithin]

/-! ## Reading -/

/-- The filter that a text asks for, if all of its directives can be read. Between commas there may
be nothing, and a text without directives asks for errors alone. -/
def parse? (text : String) : Option Filter :=
  match (text.splitOn ",").filter (· != "") with
  | [] => some (ofLevel (some .error))
  | parts => (parts.mapM (fun part => Directive.parse? part.toList)).map Filter.mk

end Filter

end Log

end LoxLexer
