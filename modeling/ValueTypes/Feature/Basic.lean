import ValueTypes.Checked
import ValueTypes.Model.Basic
import ValueTypes.Objc.Basic
import ValueTypes.Problem
import ValueTypes.Tags

/-! Features and their sum. Every feature sees the same declaration and contributes its own part of
the generated class; contributions of one kind follow each other in the order of the features. -/

namespace ValueTypes

open Objc

structure Contribution where
  headerComments : List String := []
  imports : List Import := []
  forwardDeclarations : List ForwardDeclaration := []
  enumerations : List Enumeration := []
  blockTypes : List BlockType := []
  staticConstants : List Constant := []
  macros : List Macro := []
  implementedProtocols : List String := []
  classMethods : List Method := []
  instanceMethods : List Method := []
  properties : List Property := []
  instanceVariables : List InstanceVariable := []
  pointers : Option PointerRegion := none
  subclassingRestricted : Bool := false
  additionalFiles : List File := []

namespace Contribution

/-- Imports, forward declarations and protocols are not repeated; the first stated pointer
region wins. -/
def merge (a b : Contribution) : Contribution where
  headerComments := a.headerComments ++ b.headerComments
  imports := appendNew a.imports b.imports
  forwardDeclarations := appendNew a.forwardDeclarations b.forwardDeclarations
  enumerations := a.enumerations ++ b.enumerations
  blockTypes := a.blockTypes ++ b.blockTypes
  staticConstants := a.staticConstants ++ b.staticConstants
  macros := a.macros ++ b.macros
  implementedProtocols := appendNew a.implementedProtocols b.implementedProtocols
  classMethods := a.classMethods ++ b.classMethods
  instanceMethods := a.instanceMethods ++ b.instanceMethods
  properties := a.properties ++ b.properties
  instanceVariables := a.instanceVariables ++ b.instanceVariables
  pointers := a.pointers <|> b.pointers
  subclassingRestricted := a.subclassingRestricted || b.subclassingRestricted
  additionalFiles := a.additionalFiles ++ b.additionalFiles

def mainClass (c : Contribution) (name : String) : ClassModel where
  name := name
  implementedProtocols := c.implementedProtocols
  classMethods := c.classMethods
  instanceMethods := c.instanceMethods
  properties := c.properties
  instanceVariables := c.instanceVariables
  pointers := c.pointers.getD .unmarked
  subclassingRestricted := c.subclassingRestricted

def mainFile (c : Contribution) (name : String) : File where
  name := name
  comments := c.headerComments
  imports := c.imports
  forwardDeclarations := c.forwardDeclarations
  enumerations := c.enumerations
  blockTypes := c.blockTypes
  staticConstants := c.staticConstants
  macros := c.macros
  classes := [c.mainClass name]

end Contribution

structure Feature (Member : Type) where
  name : String
  requires : List Tag := []
  problems : Declaration Member → List Problem := fun _ => []
  contribution : Declaration Member → Contribution := fun _ => {}
  rework : Declaration Member → File → File := fun _ file => file

variable {Member : Type}

def Feature.takesPart (tags : List Tag) (feature : Feature Member) : Bool :=
  feature.requires.all (tags.contains ·)

def Declaration.withTagsInForce (defaults : List Tag) (settings : Settings)
    (d : Declaration Member) : Declaration Member :=
  { d with includes := tagsInForce defaults settings d.includes d.excludes }

def contributions (features : List (Feature Member)) (d : Declaration Member) : Contribution :=
  features.foldl (fun total feature => Contribution.merge total (feature.contribution d)) {}

def reworked (features : List (Feature Member)) (d : Declaration Member) (file : File) : File :=
  features.foldl (fun file feature => feature.rework d file) file

/-- The files for a declaration: the main file, then the additional ones. If a feature finds a
problem, there are no files, but the problems of all features. -/
def generateWith (defaults : List Tag) (features : List (Feature Member)) (settings : Settings)
    (declaration : Declaration Member) : Checked Problem (List File) :=
  let d := declaration.withTagsInForce defaults settings
  let active := features.filter (·.takesPart d.includes)
  match active.flatMap (·.problems d) with
  | [] =>
    let total := contributions active d
    .ok (reworked active d (total.mainFile d.name) :: total.additionalFiles)
  | problems => .error problems

end ValueTypes
