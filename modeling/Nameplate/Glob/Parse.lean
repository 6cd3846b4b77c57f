import Nameplate.Glob.Token

/-!
# Reading glob patterns

`parse` reads a pattern from left to right and stops at the first error. It keeps the tokens of
the alternative it is in, the last one first, and the groups around it.

* `Stars`: what two stars mean where they stand;
* `Class`: a character class that is being read;
* `parse`: the tokens of a text.
-/

namespace Nameplate.Glob

/-- A group that is open: its finished alternatives, the last one first, and the tokens before it,
the last one first. -/
structure Group where
  finished : List (List Token)
  outer : List Token

/-- The tokens of the current alternative, the last one first, and the open groups, the innermost
one first. -/
structure Reading where
  tokens : List Token := []
  groups : List Group := []

namespace Reading

def push (r : Reading) (t : Token) : Reading := { r with tokens := t :: r.tokens }

/-- Starts a group. -/
def openGroup (r : Reading) : Reading := ⟨[], ⟨[], r.tokens⟩ :: r.groups⟩

/-- A comma ends an alternative; outside of groups it stands for itself. -/
def comma (r : Reading) : Reading :=
  match r.groups with
  | [] => r.push (.literal ',')
  | g :: groups => ⟨[], { g with finished := r.tokens.reverse :: g.finished } :: groups⟩

/-- Ends a group. -/
def closeGroup (r : Reading) : Except Error Reading :=
  match r.groups with
  | [] => .error .unopenedGroup
  | g :: groups =>
    .ok ⟨.choice (r.tokens.reverse :: g.finished).reverse :: g.outer, groups⟩

/-- The tokens of a text that ends here. -/
def finish (r : Reading) : Except Error (List Token) :=
  if r.groups.isEmpty then .ok r.tokens.reverse else .error .unclosedGroup

/-- Two stars that only match like one. -/
def plainStars (r : Reading) : Reading := (r.push .many).push .many

/-- A recursive form in the place of the slash before it; after another recursive form at the
start or the end of a pattern it adds nothing. -/
def recursive (r : Reading) (t : Token) : Reading :=
  match r.tokens with
  | .leading :: _ => r
  | .trailing :: _ => r
  | _ :: tokens => { r with tokens := t :: tokens }
  | [] => r.push t

end Reading

/-- What two stars mean. -/
inductive Stars where
  | plain
  /-- The start of a pattern; a slash behind belongs to it. -/
  | leading
  /-- The end of a pattern. -/
  | trailing
  /-- Between two slashes; the second one belongs to it. -/
  | between

/-- What two stars mean behind a character and before another one. -/
def Stars.of (r : Reading) (previous next : Option Char) : Stars :=
  if r.tokens.isEmpty then
    if next.all (· == '/') then .leading else .plain
  else if previous == some '/' ||
      (!r.groups.isEmpty && (previous == some ',' || previous == some '\x7b')) then
    match next with
    | none => .trailing
    | some '/' => .between
    | some c => if (c == ',' || c == '\x7d') && !r.groups.isEmpty then .trailing else .plain
  else .plain

/-- The tokens with the two stars added. -/
def Reading.stars (r : Reading) : Stars → Reading
  | .plain => r.plainStars
  | .leading => r.push .leading
  | .trailing => r.recursive .trailing
  | .between => r.recursive .between

/-- The meanings that take a slash behind the stars with them. -/
def Stars.takesSlash : Stars → Bool
  | leading => true
  | between => true
  | _ => false

/-- A character class that is being read: its ranges, the last one first, whether no member was
read yet, and whether a dash was read behind a member. -/
structure Class where
  negated : Bool
  ranges : List (Char × Char) := []
  first : Bool := true
  dash : Bool := false

namespace Class

/-- Adds a member, or makes it the end of the last range. -/
def add (k : Class) (c : Char) : Except Error Class :=
  match k.dash, k.ranges with
  | true, (lo, _) :: ranges =>
    if c < lo then .error (.invalidRange lo c)
    else .ok { k with ranges := (lo, c) :: ranges, first := false, dash := false }
  | _, ranges => .ok { k with ranges := (c, c) :: ranges, first := false, dash := false }

/-- The token of a class that ends here; a dash at its end is a member. -/
def token (k : Class) : Token :=
  .oneOf k.negated (if k.dash then ('-', '-') :: k.ranges else k.ranges).reverse

end Class

/-- Reads the rest of a pattern, which starts inside a class or outside of one, behind a
character. -/
def parseFrom : Reading → Option Class → Option Char → List Char → Except Error (List Token)
  | r, none, _, [] => r.finish
  | _, some _, _, [] => .error .unclosedClass
  | r, some k, _, c :: rest =>
    if c == ']' && !k.first then parseFrom (r.push k.token) none (some c) rest
    else if c == '-' && !k.first && !k.dash then
      parseFrom r (some { k with dash := true }) (some c) rest
    else do parseFrom r (some (← k.add c)) (some c) rest
  | r, none, _, '?' :: rest => parseFrom (r.push .any) none (some '?') rest
  | r, none, previous, '*' :: '*' :: '/' :: rest =>
    let meaning := Stars.of r previous (some '/')
    if meaning.takesSlash then parseFrom (r.stars meaning) none (some '/') rest
    else parseFrom ((r.stars meaning).push (.literal '/')) none (some '/') rest
  | r, none, previous, '*' :: '*' :: rest =>
    parseFrom (r.stars (Stars.of r previous rest.head?)) none (some '*') rest
  | r, none, _, '*' :: rest => parseFrom (r.push .many) none (some '*') rest
  | r, none, _, '[' :: '!' :: rest => parseFrom r (some ⟨true, [], true, false⟩) (some '!') rest
  | r, none, _, '[' :: '^' :: rest => parseFrom r (some ⟨true, [], true, false⟩) (some '^') rest
  | r, none, _, '[' :: rest => parseFrom r (some ⟨false, [], true, false⟩) (some '[') rest
  | r, none, _, '\x7b' :: rest => parseFrom r.openGroup none (some '\x7b') rest
  | r, none, _, '\x7d' :: rest => do parseFrom (← r.closeGroup) none (some '\x7d') rest
  | r, none, _, ',' :: rest => parseFrom r.comma none (some ',') rest
  | r, none, _, '\\' :: c :: rest => parseFrom (r.push (.literal c)) none (some c) rest
  | _, none, _, ['\\'] => .error .danglingEscape
  | r, none, _, c :: rest => parseFrom (r.push (.literal c)) none (some c) rest

/-- The tokens of a pattern. -/
def parse (text : String) : Except Error (List Token) :=
  parseFrom {} none none text.toList

end Nameplate.Glob
