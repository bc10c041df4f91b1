import SceneGrammar.Geometry.Offset
import SceneGrammar.Grammar.Expr

/-!
# Rules

A grammar is a sequence of rules, some of which hold sequences themselves. Rules move a cursor over
the links of a scene and grow the scene where it stands.
-/

namespace SceneGrammar

/-- A coordinate axis. -/
inductive Axis where
  | x
  | y
  | z
deriving Repr, DecidableEq, Inhabited

/-- The factors that reflect along an axis. -/
def Axis.reflection {α : Type} [Scalar α] : Axis → Vec3 α
  | .x => ⟨-1, 1, 1⟩
  | .y => ⟨1, -1, 1⟩
  | .z => ⟨1, 1, -1⟩

/-- One instruction of a grammar. -/
inductive Rule (ι : Type) where
  /-- Gives a sequence a name. -/
  | define (name : String) (body : List (Rule ι))
  /-- Publishes the current link under an alias. -/
  | exportLink (name : Expr ι)
  /-- Runs a sequence and goes back. -/
  | block (body : List (Rule ι))
  /-- Runs a sequence several times in a row, then goes back. -/
  | times (count : Expr ι) (body : List (Rule ι))
  /-- Places what a name stands for at the current link. -/
  | place (name : Expr ι)
  /-- Copies the children of a neighbouring link, mirrored if an axis is given. -/
  | copySibling (link : Expr ι) (mirror : Option Axis)
  /-- Adds a link to the current object. -/
  | addLink (name : Expr ι)
  /-- Goes to a link that can be seen. -/
  | goTo (name : Expr ι)
  /-- Runs a sequence at every link that can be seen and matches a pattern. -/
  | forLinks (pattern : String) (body : List (Rule ι))
  /-- Runs a sequence with a probability. -/
  | maybe (ratio : Expr ι) (body : List (Rule ι))
  /-- Changes a channel of the offset from the current link. -/
  | adjust (channel : Channel) (vector : Expr ι) (absolute : Bool)
deriving Inhabited

/-- A sequence of rules as it is read, without labels. -/
abbrev Grammar := List (Rule Unit)

namespace Rule
variable {ι : Type}

/-- The word that grammars and messages use for a rule. -/
def word : Rule ι → String
  | .define _ _ => "define"
  | .exportLink _ => "export_link"
  | .block _ => "scope"
  | .times _ _ => "repeat"
  | .place _ => "instance"
  | .copySibling _ _ => "copy_parent_link_children"
  | .addLink _ => "create_link"
  | .goTo _ => "move_to_link"
  | .forLinks _ _ => "each_link"
  | .maybe _ _ => "maybe"
  | .adjust .location _ _ => "move"
  | .adjust .rotation _ _ => "rotate"
  | .adjust .scale _ _ => "scale"

mutual
/-- Whether two rules are equal, labels aside. -/
def same : Rule ι → Rule ι → Bool
  | .define n b, .define n' b' => n == n' && allSame b b'
  | .exportLink e, .exportLink e' => e.same e'
  | .block b, .block b' => allSame b b'
  | .times e b, .times e' b' => e.same e' && allSame b b'
  | .place e, .place e' => e.same e'
  | .copySibling e m, .copySibling e' m' => e.same e' && m == m'
  | .addLink e, .addLink e' => e.same e'
  | .goTo e, .goTo e' => e.same e'
  | .forLinks p b, .forLinks p' b' => p == p' && allSame b b'
  | .maybe e b, .maybe e' b' => e.same e' && allSame b b'
  | .adjust c e a, .adjust c' e' a' => c == c' && e.same e' && a == a'
  | _, _ => false
/-- Whether two sequences agree rule by rule. -/
def allSame : List (Rule ι) → List (Rule ι) → Bool
  | [], [] => true
  | r :: rs, s :: ss => same r s && allSame rs ss
  | _, _ => false
end

mutual
/-- Labels the fixed values of a rule with numbers from `next` on, in the order in which they are
written, and returns the first number that is left. -/
def number : Rule ι → Nat → Rule Nat × Nat
  | .define name body, next =>
    let (body, next) := numberAll body next
    (.define name body, next)
  | .exportLink e, next =>
    let (e, next) := e.number next
    (.exportLink e, next)
  | .block body, next =>
    let (body, next) := numberAll body next
    (.block body, next)
  | .times e body, next =>
    let (e, next) := e.number next
    let (body, next) := numberAll body next
    (.times e body, next)
  | .place e, next =>
    let (e, next) := e.number next
    (.place e, next)
  | .copySibling e mirror, next =>
    let (e, next) := e.number next
    (.copySibling e mirror, next)
  | .addLink e, next =>
    let (e, next) := e.number next
    (.addLink e, next)
  | .goTo e, next =>
    let (e, next) := e.number next
    (.goTo e, next)
  | .forLinks pattern body, next =>
    let (body, next) := numberAll body next
    (.forLinks pattern body, next)
  | .maybe e body, next =>
    let (e, next) := e.number next
    let (body, next) := numberAll body next
    (.maybe e body, next)
  | .adjust channel e absolute, next =>
    let (e, next) := e.number next
    (.adjust channel e absolute, next)
/-- Labels the fixed values of a sequence. -/
def numberAll : List (Rule ι) → Nat → List (Rule Nat) × Nat
  | [], next => ([], next)
  | r :: rs, next =>
    let (r, next) := number r next
    let (rs, next) := numberAll rs next
    (r :: rs, next)
end

mutual
/-- Removes the labels. -/
def erase : Rule ι → Rule Unit
  | .define name body => .define name (eraseAll body)
  | .exportLink e => .exportLink e.erase
  | .block body => .block (eraseAll body)
  | .times e body => .times e.erase (eraseAll body)
  | .place e => .place e.erase
  | .copySibling e mirror => .copySibling e.erase mirror
  | .addLink e => .addLink e.erase
  | .goTo e => .goTo e.erase
  | .forLinks pattern body => .forLinks pattern (eraseAll body)
  | .maybe e body => .maybe e.erase (eraseAll body)
  | .adjust channel e absolute => .adjust channel e.erase absolute
/-- Removes the labels of a sequence. -/
def eraseAll : List (Rule ι) → List (Rule Unit)
  | [] => []
  | r :: rs => r.erase :: eraseAll rs
end

end Rule

end SceneGrammar
