import PathWatch.Glob.Matcher
import PathWatch.Regex.Matcher
import PathWatch.Text.Basic
import PathWatch.Text.Quoted
/-!
# Matchers and registries of syntaxes

A matcher decides for each path whether it matches, whatever it was built from. What builds matchers
of a syntax is called a constructor. A registry leads from the tag of a syntax to its constructor.
Tags that differ in the case of ASCII letters only are the same tag, and the last constructor that
was registered for a tag is the one that counts. A selector is a tag and a pattern with a colon
between them.

Entries are kept in the order of the bytes of their tags.
-/

namespace PathWatch

/-! ## Matchers and constructors -/

/-- Decides whether a path matches. -/
abbrev PathMatcher := String → Bool

/-- Why no matcher is built. -/
inductive MatchError where
  /-- The selector names no syntax. -/
  | missingSyntax (selector : String)
  /-- Nothing builds matchers of the syntax. -/
  | unknownSyntax (tag : String)
  | glob (error : Glob.Error)
  | regex (error : Regex.Error)
  deriving DecidableEq, Repr

/-- The message for a matcher that is not built. -/
def MatchError.message : MatchError → String
  | .missingSyntax selector =>
    "Missing syntax in selector '" ++ selector ++ "' (expected 'syntax:pattern')"
  | .unknownSyntax tag => "Unknown matcher syntax: " ++ tag
  | .glob error => "Glob error: " ++ error.message
  | .regex error => "Regex error: " ++ error.message

/-- Builds a matcher from a pattern. -/
abbrev Constructor := String → Except MatchError PathMatcher

/-- Builds matchers from globs. -/
def globConstructor : Constructor := fun pattern =>
  match GlobMatcher.compile pattern with
  | .error e => .error (.glob e)
  | .ok m => .ok m.isMatch

/-- Builds matchers from regular expressions. -/
def regexConstructor : Constructor := fun pattern =>
  match RegexMatcher.compile pattern with
  | .error e => .error (.regex e)
  | .ok m => .ok m.isMatch

/-! ## Registries -/

/-- A tag with its ASCII letters in small letters. -/
def foldTag (tag : String) : String :=
  String.ofList (tag.toList.map Char.toLower)

/-- Constructors by the tags of their syntaxes. -/
structure Registry (K : Type) where
  /-- The folded tags in rising order, each with its constructor. -/
  entries : List (String × K) := []

namespace Registry

variable {K : Type}

/-! ## Entries -/

/-- The constructor of a folded tag. -/
def find? (tag : String) : List (String × K) → Option K
  | [] => none
  | (t, make) :: rest => if t = tag then some make else find? tag rest

/-- The entries with a constructor for a folded tag put in or replaced. -/
def insert (tag : String) (make : K) : List (String × K) → List (String × K)
  | [] => [(tag, make)]
  | (t, old) :: rest =>
    if t = tag then (tag, make) :: rest
    else if Text.before tag t then (tag, make) :: (t, old) :: rest
    else (t, old) :: insert tag make rest

/-! ## Registering -/

/-- The registry without any syntax. -/
def empty : Registry K := {}

/-- The constructor that counts for a tag. -/
def get? (r : Registry K) (tag : String) : Option K :=
  find? (foldTag tag) r.entries

/-- Registers a constructor for a tag, and gives back the one it replaces. -/
def register (r : Registry K) (tag : String) (make : K) : Option K × Registry K :=
  (r.get? tag, { entries := insert (foldTag tag) make r.entries })

/-- Whether there is a constructor for a tag. -/
def supports (r : Registry K) (tag : String) : Bool :=
  (r.get? tag).isSome

/-- The folded tags that were registered. -/
def tags (r : Registry K) : List String :=
  r.entries.map Prod.fst

/-- The description of a registry. -/
def describe (r : Registry K) : String :=
  "MatcherRegistry \x7b syntaxes: [" ++ String.intercalate ", " (r.tags.map Text.quote) ++ "] \x7d"

/-! ## Building matchers -/

/-- The registry that knows globs and regular expressions. -/
def standard : Registry Constructor :=
  (((empty : Registry Constructor).register "glob" globConstructor).2.register "regex"
    regexConstructor).2

/-- Builds a matcher of a syntax from a pattern. -/
def build (r : Registry Constructor) (tag pattern : String) : Except MatchError PathMatcher :=
  match r.get? tag with
  | none => .error (.unknownSyntax tag)
  | some make => make pattern

/-- The tag and the pattern of a selector, which is cut at its first colon. -/
def splitSelector (selector : String) : Option (String × String) :=
  match Text.cut ':' selector.toList with
  | (_, none) => none
  | (tag, some pattern) => some (String.ofList tag, String.ofList pattern)

/-- Builds a matcher from a selector. -/
def compile (r : Registry Constructor) (selector : String) : Except MatchError PathMatcher :=
  match splitSelector selector with
  | none => .error (.missingSyntax selector)
  | some (tag, pattern) => r.build tag pattern

end Registry

end PathWatch
