import PathWatch.Glob.Token
import PathWatch.Pattern.Positions
/-!
# Glob matchers

A compiled glob keeps its text and decides for each path whether the glob matches the whole of it.

The reader goes through the text once. It keeps the tokens of the alternative it is in, the
alternatives of the same group that are complete, and the groups around it. A double star is special
only where slashes or the edges of the glob or of an alternative are on both sides of it.
-/

namespace PathWatch

namespace Glob

/-! ## Classes -/

/-- A class that is being read. -/
structure ClassReader where
  negated : Bool
  /-- The spans read so far, the last one first. -/
  spans : List (Char × Char) := []
  isFirst : Bool := true
  /-- Whether a hyphen was read that may continue the last span. -/
  inRange : Bool := false
  deriving Repr

/-- Ends the last span with a character. -/
def ClassReader.endSpan (r : ClassReader) (c : Char) : Except Cause ClassReader :=
  match r.spans with
  | [] => .ok { r with spans := [(c, c)], isFirst := false, inRange := false }
  | (first, _) :: others =>
    if c < first then .error (.invalidRange first c)
    else .ok { r with spans := (first, c) :: others, isFirst := false, inRange := false }

/-- Adds a character, as the end of a span or alone. -/
def ClassReader.add (r : ClassReader) (c : Char) : Except Cause ClassReader :=
  if r.inRange then r.endSpan c
  else .ok { r with spans := (c, c) :: r.spans, isFirst := false }

/-- Reads one character of a class other than the bracket that ends it. -/
def ClassReader.read (r : ClassReader) (c : Char) : Except Cause ClassReader :=
  if c = '-' then
    if r.isFirst then .ok { r with spans := [('-', '-')], isFirst := false }
    else if r.inRange then r.endSpan '-'
    else .ok { r with inRange := true }
  else if c = ']' then .ok { r with spans := (']', ']') :: r.spans, isFirst := false }
  else r.add c

/-- The token of a class. A hyphen at the end stands for itself. -/
def ClassReader.token (r : ClassReader) : Token :=
  .class r.negated ((if r.inRange then ('-', '-') :: r.spans else r.spans).reverse)

/-! ## The reader -/

/-- A group that is being read, around the current alternative. -/
structure Frame where
  /-- The tokens in front of the group, the last one first. -/
  before : List Token
  /-- The alternatives of the group that are complete, the last one first. -/
  done : List (List Token)
  deriving Repr

/-- What has been read. -/
structure Reader where
  /-- The tokens of the current alternative, the last one first. -/
  tokens : List Token := []
  /-- The groups around it, the innermost first. -/
  frames : List Frame := []
  /-- The last character read. -/
  previous : Option Char := none
  /-- The class that is being read, if there is one. -/
  openClass : Option ClassReader := none
  deriving Repr

namespace Reader

/-- Adds a token. -/
def push (r : Reader) (t : Token) : Reader :=
  { r with tokens := t :: r.tokens }

/-- Remembers the last character read. -/
def after (r : Reader) (c : Char) : Reader :=
  { r with previous := some c }

/-- Whether the reader is inside a group. -/
def inGroup (r : Reader) : Bool :=
  !r.frames.isEmpty

/-- Opens a group. -/
def openGroup (r : Reader) : Reader :=
  { r with tokens := [], frames := ⟨r.tokens, []⟩ :: r.frames }

/-- Starts the next alternative of a group; outside of groups a comma stands for itself. -/
def comma (r : Reader) : Reader :=
  match r.frames with
  | [] => r.push (.literal ',')
  | f :: frames =>
    { r with tokens := [], frames := { f with done := r.tokens.reverse :: f.done } :: frames }

/-- Closes a group. -/
def closeGroup (r : Reader) : Except Cause Reader :=
  match r.frames with
  | [] => .error .unopenedAlternates
  | f :: frames =>
    .ok { r with
      tokens := .alternates ((r.tokens.reverse :: f.done).reverse) :: f.before
      frames }

/-- Two stars that are nothing but two stars. -/
def twoStars (r : Reader) : Reader :=
  ((r.push .zeroOrMore).push .zeroOrMore).after '*'

/-- Puts a double star in place of the last token, which is the slash before it, or keeps a double
star that stands there already. -/
def absorbSlash (r : Reader) (star : Token) : Reader :=
  match r.tokens with
  | [] => r.push star
  | .recursivePrefix :: _ => r
  | .recursiveSuffix :: _ => r
  | _ :: others => { r with tokens := star :: others }

/-- Whether a double star can be special for what stands before it: a slash, or inside a group the
start of an alternative. -/
def allowsDoubleStar (r : Reader) : Bool :=
  r.previous = some '/' ||
    (r.inGroup && (r.previous = some ',' || r.previous = some '{'))

/-- Reads the rest of the text. -/
def run (r : Reader) : List Char → Except Cause Reader
  | [] =>
    match r.openClass with
    | some _ => .error .unclosedClass
    | none => .ok r
  | c :: s =>
    match r.openClass with
    | some k =>
      if c = ']' && !k.isFirst then
        run ({ r with openClass := none }.push k.token |>.after c) s
      else
        match k.read c with
        | .error e => .error e
        | .ok k => run ({ r with openClass := some k }.after c) s
    | none =>
      match c with
      | '?' => run ((r.push .any).after c) s
      | '*' =>
        match s with
        | '*' :: s =>
          if r.tokens.isEmpty then
            match s with
            | [] => .ok ((r.push .recursivePrefix).after '*')
            | '/' :: s => run ((r.push .recursivePrefix).after '/') s
            | d :: s => run r.twoStars (d :: s)
          else if !r.allowsDoubleStar then run r.twoStars s
          else
            match s with
            | [] => .ok ((r.absorbSlash .recursiveSuffix).after '*')
            | '/' :: s => run ((r.absorbSlash .recursiveZeroOrMore).after '/') s
            | d :: s =>
              if r.inGroup && (d = ',' || d = '}') then
                run ((r.absorbSlash .recursiveSuffix).after '*') (d :: s)
              else run r.twoStars (d :: s)
        | s => run ((r.push .zeroOrMore).after c) s
      | '[' =>
        match s with
        | '!' :: s => run ({ r with openClass := some { negated := true } }.after '!') s
        | '^' :: s => run ({ r with openClass := some { negated := true } }.after '^') s
        | s => run ({ r with openClass := some { negated := false } }.after c) s
      | '{' => run (r.openGroup.after c) s
      | '}' =>
        match r.closeGroup with
        | .error e => .error e
        | .ok r => run (r.after c) s
      | ',' => run (r.comma.after c) s
      | '\\' =>
        match s with
        | [] => .error .danglingEscape
        | d :: s => run ((r.push (.literal d)).after d) s
      | c => run ((r.push (.literal c)).after c) s

end Reader

/-- Reads a text as a glob. -/
def parse (text : String) : Except Error (List Token) :=
  match ({} : Reader).run text.toList with
  | .error cause => .error ⟨text, cause⟩
  | .ok r =>
    if r.frames.isEmpty then .ok r.tokens.reverse else .error ⟨text, .unclosedAlternates⟩

end Glob

/-! ## Matchers -/

/-- A compiled glob. -/
structure GlobMatcher where
  pattern : String
  tokens : List Glob.Token

namespace GlobMatcher

/-- Compiles a glob. What the library of globs makes of it can be larger than the library allows,
and the program breaks off then; that limit is left out here, and every glob that is read is
compiled. -/
def compile (pattern : String) : Except Glob.Error GlobMatcher :=
  match Glob.parse pattern with
  | .error e => .error e
  | .ok tokens => .ok { pattern, tokens }

/-- Whether the glob matches a path. -/
def isMatch (m : GlobMatcher) (path : String) : Bool :=
  (Glob.toExpr m.tokens).matchesAll (Text.bytes path)

end GlobMatcher

end PathWatch
