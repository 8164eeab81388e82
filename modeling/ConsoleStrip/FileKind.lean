/-
Kinds of source files.

* `FileKind`: a kind of file that is rewritten, by its extension;
* `FileKind.ofPath?`: the kind of a file with a given path;
* `FileKind.markup`: markup is allowed in such files.
-/

namespace ConsoleStrip

/-- A kind of source file. -/
inductive FileKind where
  | js
  | jsx
  | ts
  | tsx
  | vue
  | svelte
deriving Repr, DecidableEq, Inhabited

namespace FileKind

/-- All kinds. -/
def all : List FileKind := [js, jsx, ts, tsx, vue, svelte]

/-- The extension of a kind. -/
def extension : FileKind → String
  | js => "js"
  | jsx => "jsx"
  | ts => "ts"
  | tsx => "tsx"
  | vue => "vue"
  | svelte => "svelte"

/-- The name of a kind. -/
def name : FileKind → String
  | js => "Js"
  | jsx => "Jsx"
  | ts => "Ts"
  | tsx => "Tsx"
  | vue => "Vue"
  | svelte => "Svelte"

/-- The kind with a given extension. -/
def ofExtension? (ext : String) : Option FileKind :=
  all.find? (·.extension == ext)

/-- What follows the last dot of a text. -/
def afterLastDot? (cs : List Char) : Option (List Char) :=
  if cs.contains '.' then some (cs.reverse.takeWhile (· != '.')).reverse else none

/-- The kind of a file with a given path: what follows the last dot decides. -/
def ofPath? (path : String) : Option FileKind :=
  (afterLastDot? path.toList).bind fun ext => ofExtension? (String.ofList ext)

/-- Markup is allowed everywhere but where `<T>x` is a type assertion. -/
def markup : FileKind → Bool
  | ts => false
  | _ => true

end FileKind

end ConsoleStrip
