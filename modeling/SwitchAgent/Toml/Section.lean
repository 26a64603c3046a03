import SwitchAgent.Toml.Term

/-!
# Sections

A document is a run of sections: the keys before the first header, and those after each header.
A table gathers its members from its own section and from all sections below it, wherever they
stand. Every section is gathered once; one that belongs nowhere else spoils the document.
-/

namespace SwitchAgent.Toml

structure Section where
  path : List String
  /-- The header adds a table to a list. -/
  listed : Bool
  /-- None once they have been gathered. -/
  members : Option Members
  deriving Repr, Inhabited

abbrev Sections := List Section

/-- The first section from one place up to another of which something holds. -/
def Sections.findFrom (sections : Sections) (start stop : Nat) (holds : Section → Bool) :
    Option Nat :=
  (((sections.take stop).drop start).findIdx? holds).map (start + ·)

/-- Whether a section is below a path and not gathered yet. -/
def Section.awaits (path : List String) (s : Section) : Bool :=
  path.isPrefixOf s.path && s.members.isSome

def Section.empty (s : Section) : Section :=
  { s with members := none }

/-- A table that is being gathered. -/
structure Site where
  /-- How many names lead to the table. -/
  depth : Nat
  /-- A section whose path starts with these names. -/
  guide : Nat
  /-- Where to look for sections of the table. -/
  next : Nat
  stop : Nat

/-- The site of a table one name further down. -/
def Site.below (site : Site) (guide : Nat) : Site :=
  ⟨site.depth + 1, guide, 0, site.stop⟩

mutual

/-- Gather a table: the members at hand, then the sections below it in order. Its own section
must not come twice, and a list has no section of its own. -/
def gatherTable : Nat → Site → Members → List (String × Value) → Sections →
    Option (Value × Sections)
  | 0, _, _, _, _ => none
  | fuel + 1, site, (key, t) :: members, table, sections =>
    if table.isEmpty && key == dateKey then t.date?.map (·, sections)
    else do
      let v ← t.toValue?
      gatherTable fuel site members (← addMember table key v) sections
  | fuel + 1, site, [], table, sections =>
    let guide := (sections[site.guide]?).getD default
    match sections.findFrom site.next site.stop (Section.awaits (guide.path.take site.depth)) with
    | none => some (.table table, sections)
    | some place =>
      let s := (sections[place]?).getD default
      if place ≠ site.guide ∧ s.path = guide.path then none
      else
        let nearer := if s.path.length < guide.path.length then place else site.guide
        match s.path.drop site.depth with
        | [] =>
          if s.listed then none
          else gatherTable fuel { site with guide := nearer, next := place } (s.members.getD [])
            table (sections.set place s.empty)
        | key :: path =>
          if table.isEmpty && key == dateKey then none
          else do
            let (v, sections) ←
              if s.listed && path.isEmpty then gatherList fuel site place [] sections
              else gatherTable fuel (site.below place) [] [] sections
            gatherTable fuel { site with guide := nearer, next := place + 1 } []
              (← addMember table key v) sections

/-- Gather a list: each of its sections is a table, up to the next of them. -/
def gatherList : Nat → Site → Nat → List Value → Sections → Option (Value × Sections)
  | 0, _, _, _, _ => none
  | fuel + 1, site, place, items, sections => do
    let s ← sections[place]?
    let members ← s.members
    let next := (sections.findFrom (place + 1) site.stop fun other =>
      other.path == s.path && other.listed).getD site.stop
    let (v, sections) ← gatherTable fuel { site.below place with stop := next } members []
      (sections.set place s.empty)
    let items := items ++ [v]
    if next = site.stop then return (.array items, sections)
    else gatherList fuel site next items sections

end

end SwitchAgent.Toml
