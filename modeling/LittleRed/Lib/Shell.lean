import Mathlib.Data.List.Basic

/-!
# A POSIX shell, as far as its words

The shell cuts its input into words and operators and reads them as simple commands, each with the operator
that connects it to the one before. What is not a word, a parameter by name, a comment or a list of simple
commands is refused.
-/

namespace LittleRed.Lib.Shell

/-- A character, special only if it is not quoted, or a parameter, split only if it is not quoted. -/
inductive Piece where
  | char (c : Char) (quoted : Bool)
  | param (name : List Char) (quoted : Bool)
  deriving DecidableEq

/-- A word, before its parameters are replaced and its quotes are removed. -/
abbrev Word := List Piece

inductive Token where
  | word (pieces : Word)
  | operator (text : List Char)
  deriving DecidableEq

/-- What the next character belongs to. -/
inductive Mode where
  | plain
  | escape
  | single
  | double
  | doubleEscape
  | dollar (quoted : Bool)
  | param (name : List Char) (quoted : Bool)
  | operator (text : List Char)
  | comment
  deriving DecidableEq

/-- The tokens so far, the word that is being read, and the mode. -/
structure Scan where
  tokens : List Token
  word : Option Word
  mode : Mode
  deriving DecidableEq

namespace Scan

/-- The word ends here. -/
def flush (s : Scan) : Scan :=
  match s.word with
  | none => s
  | some w => { s with tokens := s.tokens ++ [.word w], word := none }

def put (s : Scan) (piece : Piece) : Scan := { s with word := some (s.word.getD [] ++ [piece]) }

/-- A quote begins, and with it a word if there is none. -/
def quote (s : Scan) (mode : Mode) : Scan := { s with word := some (s.word.getD []), mode := mode }

def enter (s : Scan) (mode : Mode) : Scan := { s with mode := mode }

end Scan

/-- The operators of the shell, the line break included. -/
def operators : List (List Char) :=
  ["&", "&&", "|", "||", ";", ";;", "<", "<<", "<<-", "<&", "<>", ">", ">>", ">|", ">&", "(", ")", "\n"].map
    String.toList

/-- The characters of a name; the first one is no digit. -/
def isNameChar (c : Char) : Bool := c.isAlpha || c.isDigit || c == '_'

/-- The mark of a command substitution, which is not read here. -/
def backquote : Char := Char.ofNat 96

/-- Read a character outside of quotes. -/
def plainStep (s : Scan) (c : Char) : Option Scan :=
  if c = ' ' ∨ c = '\t' then some s.flush
  else if c = '\'' then some (s.quote .single)
  else if c = '"' then some (s.quote .double)
  else if c = '\\' then some (s.enter .escape)
  else if c = '$' then some (s.enter (.dollar false))
  else if c = backquote then none
  else if [c] ∈ operators then some (s.flush.enter (.operator [c]))
  else if c = '#' ∧ s.word = none then some (s.enter .comment)
  else some (s.put (.char c false))

/-- Read a character within double quotes. -/
def doubleStep (s : Scan) (c : Char) : Option Scan :=
  if c = '"' then some (s.enter .plain)
  else if c = '\\' then some (s.enter .doubleEscape)
  else if c = '$' then some (s.enter (.dollar true))
  else if c = backquote then none
  else some (s.put (.char c true))

/-- Read a character. -/
def step (s : Scan) (c : Char) : Option Scan :=
  match s.mode with
  | .plain => plainStep s c
  | .escape => some ((if c = '\n' then s else s.put (.char c true)).enter .plain)
  | .single => some (if c = '\'' then s.enter .plain else s.put (.char c true))
  | .double => doubleStep s c
  | .doubleEscape =>
    let s := s.enter .double
    if c = '\n' then some s
    else if c ∈ ['$', backquote, '"', '\\'] then some (s.put (.char c true))
    else some ((s.put (.char '\\' true)).put (.char c true))
  | .dollar quoted => if isNameChar c ∧ ¬c.isDigit then some (s.enter (.param [c] quoted)) else none
  | .param name quoted =>
    if isNameChar c then some (s.enter (.param (name ++ [c]) quoted))
    else if quoted then doubleStep ((s.put (.param name quoted)).enter .double) c
    else plainStep ((s.put (.param name quoted)).enter .plain) c
  | .operator text =>
    if text ++ [c] ∈ operators then some (s.enter (.operator (text ++ [c])))
    else plainStep { s with tokens := s.tokens ++ [.operator text], mode := .plain } c
  | .comment => if c = '\n' then some (s.enter (.operator [c])) else some s

/-- The input ends here. A quote that is open has no end. -/
def finish (s : Scan) : Option (List Token) :=
  match s.mode with
  | .plain => some s.flush.tokens
  | .param name false => some (s.put (.param name false)).flush.tokens
  | .operator text => some (s.tokens ++ [.operator text])
  | .comment => some s.tokens
  | _ => none

def scan (s : Scan) (input : List Char) : Option Scan := input.foldlM step s

def tokenize (input : List Char) : Option (List Token) := (scan ⟨[], none, .plain⟩ input).bind finish

/-- How a command is connected to the one before: it runs after it, if it succeeds, or if it fails. -/
inductive Connector where
  | seq
  | and
  | or
  deriving DecidableEq

/-- The connector that an operator stands for. -/
def connectorOf (text : List Char) : Option Connector :=
  if text = [';'] then some .seq
  else if text = ['&', '&'] then some .and
  else if text = ['|', '|'] then some .or
  else none

/-- A simple command: variables that are set, and the words, of which the first is the name. -/
structure SimpleCommand where
  assignments : List (List Char × Word)
  words : List Word

/-- The character of a piece that can be part of a name. -/
def Piece.nameChar : Piece → Option Char
  | .char c false => if isNameChar c then some c else none
  | _ => none

/-- A word that sets a variable: a name, an equals sign and the value. -/
def assignmentOf (w : Word) : Option (List Char × Word) :=
  let name := (w.takeWhile fun p => p.nameChar.isSome).filterMap Piece.nameChar
  match w.dropWhile fun p => p.nameChar.isSome with
  | .char '=' false :: value => if name.head?.all (·.isDigit) then none else some (name, value)
  | _ => none

/-- The command of a list of words. -/
def simpleCommand : List Word → SimpleCommand
  | [] => ⟨[], []⟩
  | w :: rest =>
    match assignmentOf w with
    | some assignment =>
      let command := simpleCommand rest
      { command with assignments := assignment :: command.assignments }
    | none => ⟨[], w :: rest⟩

/-- The commands of a list of tokens, behind the words of the command that is being read. -/
def commands (connector : Connector) (words : List Word) :
    List Token → Option (List (Connector × SimpleCommand))
  | [] =>
    if words = [] then if connector = .seq then some [] else none
    else some [(connector, simpleCommand words)]
  | .word w :: rest => commands connector (words ++ [w]) rest
  | .operator text :: rest =>
    match connectorOf text with
    | none => none
    | some next =>
      if words = [] then none
      else (commands next [] rest).map ((connector, simpleCommand words) :: ·)

/-- The commands of a script, the first one connected as if it followed another. -/
def parse (script : List Char) : Option (List (Connector × SimpleCommand)) :=
  (tokenize script).bind (commands .seq [])

/-- The word of a text all of whose characters are quoted. -/
def quotedWord (text : List Char) : Word := text.map (.char · true)

theorem scan_append (s : Scan) (input rest : List Char) :
    scan s (input ++ rest) = (scan s input).bind (scan · rest) := List.foldlM_append

/-- A scan that ends outside of quotes, with these tokens once its last word has ended. -/
structure EndsWith (tokens : List Token) (s : Scan) : Prop where
  plain : s.mode = .plain
  flush : s.flush = ⟨tokens, none, .plain⟩

variable {tokens : List Token} {s : Scan}

/-- A blank ends the word. -/
theorem EndsWith.scan_blank (h : EndsWith tokens s) (rest : List Char) :
    scan s (' ' :: rest) = scan ⟨tokens, none, .plain⟩ rest := by
  have hstep : step s ' ' = some ⟨tokens, none, .plain⟩ := by
    rw [step, h.plain, ← h.flush]
    rfl
  rw [scan, List.foldlM_cons, hstep]
  rfl

theorem EndsWith.finish_eq (h : EndsWith tokens s) : finish s = some tokens := by
  rw [finish, h.plain, h.flush]

/-- Words go to the current command. -/
theorem commands_words (connector : Connector) (words more : List Word) (rest : List Token) :
    commands connector words (more.map .word ++ rest) = commands connector (words ++ more) rest := by
  induction more generalizing words with
  | nil => rw [List.map_nil, List.nil_append, List.append_nil]
  | cons w others ih =>
    rw [List.map_cons, List.cons_append, commands, ih, List.append_assoc, List.singleton_append]

/-- An operator ends the current command. -/
theorem commands_operator {connector next : Connector} {words : List Word} {text : List Char}
    (hnext : connectorOf text = some next) (hwords : words ≠ []) (rest : List Token) :
    commands connector words (.operator text :: rest) =
      (commands next [] rest).map ((connector, simpleCommand words) :: ·) := by
  rw [commands, hnext]
  exact if_neg hwords

end LittleRed.Lib.Shell
