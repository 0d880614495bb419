import CypherText.Call

/-!
# Scripts

A script is a list of statements over registers that hold builders and expressions. Loops take
their bodies from items of any type `ι`: a body is a function from an item to a reference, which
is evaluated when the loop is run. A reference may hold a script of its own, so scripts are
nested.
-/

namespace CypherText.Script

/-- Where the items of a loop come from. -/
inductive Items (ι : Type) where
  | given (items : List ι)
  /-- The shared list of that name. -/
  | shared (name : String)

/-- The condition of a loop. -/
inductive ConditionSource where
  /-- Holds while the counter is positive, and lowers it by one each time. -/
  | counter (name : String)
  /-- Gives the answers one after another, and then no. -/
  | answers (answers : List Bool)
  deriving Repr

mutual

/-- What a statement refers to. -/
inductive Ref (ι : Type) where
  | register (name : String)
  | value (value : Value)
  /-- An object that holds another one as its expression. -/
  | holder (inner : Ref ι)
  /-- The result of a nested script. -/
  | script (statements : List (Statement ι)) (result : Ref ι)
  /-- What cannot be made. -/
  | refused (failure : Failure)

/-- What a statement does. -/
inductive Action (ι : Type) where
  /-- Makes a builder. -/
  | fresh (extractor : Extractor)
  | call (call : Call)
  | forEach (items : Items ι) (body : ι → Ref ι)
  | forEachExpr (items : Items ι) (body : ι → Ref ι)
  | whileLoop (condition : ConditionSource) (body : Ref ι)
  | whileExpr (condition : ConditionSource) (body : Ref ι)
  | andThen (other : Ref ι)
  | plus (other : Ref ι)
  /-- Makes an expression of one clause. -/
  | clause (kind : ClauseKind) (text : String)
  /-- Gives the empty expression. -/
  | empty
  | sequence (parts : List (Ref ι))
  /-- Gives the expression of a builder. -/
  | expr
  /-- Makes a builder around an expression. -/
  | wrap (extractor : Extractor)
  /-- Renders a register. -/
  | build (separator : Option String)
  /-- Renders what is referred to. -/
  | buildPart (part : Ref ι) (separator : Option String)
  /-- Runs a register into one buffer, several times. -/
  | run (separator : String) (times : Nat)
  /-- Shows a builder. -/
  | inspect
  /-- Asks whether two references mean the same object. -/
  | same (other : Ref ι)
  /-- Asks whether a register counts as true. -/
  | truth
  | extract (entity : EntitySource)
  | setCounter (name : String) (value : Int)
  | getCounter (name : String)
  | setList (name : String) (items : List ι)
  | appendList (name : String) (item : ι)
  /-- Fails: what the statement works on could not be made. -/
  | refuse (failure : Failure)

/-- A statement: the register that it works on, the register that gets its result, and what it
does. -/
inductive Statement (ι : Type) where
  | on (register out : String) (action : Action ι)

end

instance (ι : Type) : Inhabited (Ref ι) :=
  ⟨.register "b"⟩

/-- The condition of a loop that was made: answers are kept under a number. -/
inductive Condition where
  | counter (name : String)
  | answers (index : Nat)
  deriving DecidableEq, Repr

/-- The code of a loop body: a reference, and the number of the frame of registers that it sees.
-/
structure Body (ι : Type) where
  frame : Nat
  ref : Ref ι

/-- An object. Builders and expressions carry a number that tells objects apart; a builder also
carries that of its expression. -/
inductive Thing (ι : Type) where
  | expr (id : Nat) (expr : Expr Condition (Body ι))
  | builder (id exprId : Nat) (builder : Builder Condition (Body ι))
  | holder (inner : Thing ι)
  | foreign (typeName : String)

/-- What a statement tells. -/
inductive Answer where
  /-- A builder was made, whose expression has so many steps. -/
  | builder (steps : Nat)
  /-- An expression was made, which has so many steps. -/
  | expr (steps : Nat)
  | text (text : String)
  /-- What a buffer holds after a run, and why the run failed, if it did. -/
  | run (text : String) (kinds : List ClauseKind) (failure : Option Failure)
  | shown (text : String)
  | same (value : Bool)
  | truth (value : Bool)
  /-- A type name, and names with literals. -/
  | extracted (typeName : String) (properties : List (String × String))
  | counter (value : Int)
  | length (value : Nat)
  deriving DecidableEq, Repr

/-- The registers that a script sees. -/
abbrev Registers (ι : Type) := Entries (Thing ι)

/-- The state of a script: the registers of the script and of all nested scripts, and what they
share: counters, lists, and the answers that conditions have not given yet. -/
structure Store (ι : Type) where
  frames : Array (Registers ι)
  counters : Entries Int
  lists : Entries (List ι)
  answers : Array (List Bool)
  /-- The number of the next object. -/
  nextId : Nat

namespace Thing

variable {ι : Type}

/-- The number of the one empty expression. -/
def emptyExprId : Nat := 0

/-- The number of the builder that every script starts with. -/
def firstBuilderId : Nat := 1

/-- The builder that every script starts with. -/
def firstBuilder : Thing ι :=
  builder firstBuilderId emptyExprId .empty

/-- The object as a part of a query. -/
def part : Thing ι → Part Condition (Body ι)
  | expr _ e => .expr e
  | builder _ _ b => .builder b
  | holder inner => .holder inner.part
  | foreign typeName => .foreign typeName

/-- The number of the expression that an object stands for. -/
def exprId : Thing ι → Nat
  | expr id _ => id
  | builder _ id _ => id
  | holder (expr id _) => id
  | _ => emptyExprId

/-- Whether two references mean the same object. -/
def isSame : Thing ι → Thing ι → Bool
  | expr a _, expr b _ => a == b
  | builder a _ _, builder b _ _ => a == b
  | _, _ => false

/-- Whether an object counts as true: an expression does if it has steps. -/
def truth : Thing ι → Bool
  | expr _ e => !e.isEmpty
  | _ => true

/-- What a statement tells that makes the object. -/
def answer : Thing ι → Answer
  | expr _ e => .expr e.size
  | builder _ _ b => .builder b.expr.size
  | _ => .expr 0

end Thing

end CypherText.Script
