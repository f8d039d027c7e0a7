import LittleRed.Lib.Shell

/-!
# The scripts that lrctl runs in a pod

lrctl runs `redis-cli` through a shell in the container, which reads the password from the environment there.
The arguments are put in single quotes. Whatever they are, the shell takes each for one word without anything
special in it, and the script has no other commands than those that were meant.
-/

namespace LittleRed.Lrctl

open Lib.Shell List

/-- What each script begins with: it sets the options for the password, if there is one. -/
def authShellPrefix : String :=
  "AUTH=\"\"; [ -n \"$REDIS_PASSWORD\" ] && AUTH=\"-a $REDIS_PASSWORD --no-auth-warning\";"

/-- Quote an argument; a single quote in it stands in double quotes. -/
def shellQuote (arg : String) : String :=
  "'" ++ String.ofList (arg.toList.flatMap fun c => if c = '\'' then "'\"'\"'".toList else [c]) ++ "'"

def shellJoin (args : List String) : String := " ".intercalate (args.map shellQuote)

/-- Run `redis-cli` once. -/
def redisCliArgs (args : List String) : List String :=
  ["sh", "-c", authShellPrefix ++ " redis-cli $AUTH " ++ shellJoin args]

/-- Run `redis-cli` several times, with a line between the answers. -/
def redisCliChainArgs (cmds : List (List String)) : List String :=
  let parts := cmds.map fun cmd => "redis-cli $AUTH " ++ shellJoin cmd
  ["sh", "-c", authShellPrefix ++ " " ++ " && echo \"---\" && ".intercalate parts]

def plainWord (text : String) : Word := text.toList.map (.char · false)

def argWord (arg : String) : Word := quotedWord arg.toList

/-- The words of a call of `redis-cli`: the options for the password, then the arguments. -/
def redisCliWords (args : List String) : List Word :=
  [plainWord "redis-cli", [.param "AUTH".toList false]] ++ args.map argWord

def redisCliCommand (args : List String) : SimpleCommand := ⟨[], redisCliWords args⟩

def echoCommand : SimpleCommand := ⟨[], [plainWord "echo", argWord "---"]⟩

/-- The commands that set the options for the password. -/
def authCommands : List (Connector × SimpleCommand) :=
  [(.seq, ⟨[("AUTH".toList, [])], []⟩),
    (.seq, ⟨[], [plainWord "[", plainWord "-n", [.param "REDIS_PASSWORD".toList true], plainWord "]"]⟩),
    (.and, ⟨[("AUTH".toList,
      argWord "-a " ++ [.param "REDIS_PASSWORD".toList true] ++ argWord " --no-auth-warning")], []⟩)]

/-- The calls of a chain, each but the first one behind the line between two answers. -/
def chainCommands : List (List String) → List (Connector × SimpleCommand)
  | [] => []
  | cmd :: rest =>
    (.seq, redisCliCommand cmd) ::
      rest.flatMap fun cmd => [(.and, echoCommand), (.and, redisCliCommand cmd)]

def redisCliTokens (args : List String) : List Token := (redisCliWords args).map .word

section Words

variable (tokens : List Token)

/-- Characters in single quotes are not special. -/
theorem scan_quoted (w : Word) (arg : List Char) :
    scan ⟨tokens, some w, .single⟩ (arg.flatMap fun c => if c = '\'' then "'\"'\"'".toList else [c]) =
      some ⟨tokens, some (w ++ quotedWord arg), .single⟩ := by
  induction arg generalizing w with
  | nil =>
    rw [quotedWord, map_nil, append_nil]
    rfl
  | cons c rest ih =>
    have hc : scan ⟨tokens, some w, .single⟩ (if c = '\'' then "'\"'\"'".toList else [c]) =
        some ⟨tokens, some (w ++ [.char c true]), .single⟩ := by
      split
      · rename_i hquote
        subst hquote
        rfl
      · rename_i hother
        change some (if c = '\'' then _ else _) = _
        rw [if_neg hother]
        rfl
    rw [flatMap_cons, scan_append, hc, Option.bind_some, ih, append_assoc]
    rfl

/-- A quoted argument is one word. -/
theorem scan_shellQuote (arg : String) :
    scan ⟨tokens, none, .plain⟩ (shellQuote arg).toList = some ⟨tokens, some (argWord arg), .plain⟩ := by
  have hopen : scan ⟨tokens, none, .plain⟩ "'".toList = some ⟨tokens, some [], .single⟩ := rfl
  have hclose : scan ⟨tokens, some (argWord arg), .single⟩ "'".toList =
      some ⟨tokens, some (argWord arg), .plain⟩ := rfl
  rw [shellQuote, String.toList_append, String.toList_append, scan_append, scan_append, hopen, Option.bind_some,
    String.toList_ofList, scan_quoted, Option.bind_some]
  exact hclose

/-- Quoted arguments are one word each. -/
theorem scan_shellJoin (args : List String) :
    ∃ s, scan ⟨tokens, none, .plain⟩ (shellJoin args).toList = some s ∧
      EndsWith (tokens ++ (args.map argWord).map .word) s := by
  rw [shellJoin, String.toList_intercalate, map_map]
  induction args generalizing tokens with
  | nil =>
    rw [map_nil, map_nil, map_nil, append_nil]
    exact ⟨_, rfl, rfl, rfl⟩
  | cons arg rest ih =>
    have harg : EndsWith (tokens ++ [.word (argWord arg)]) ⟨tokens, some (argWord arg), .plain⟩ := ⟨rfl, rfl⟩
    cases rest with
    | nil =>
      refine ⟨_, ?_, harg⟩
      rw [map_singleton, intercalate_singleton]
      exact scan_shellQuote tokens arg
    | cons next others =>
      obtain ⟨s, hscan, hends⟩ := ih (tokens ++ [.word (argWord arg)])
      refine ⟨s, ?_, by simpa using hends⟩
      rw [map_cons, map_cons, intercalate_cons_cons, append_assoc, scan_append,
        Function.comp_apply, scan_shellQuote, Option.bind_some]
      exact (harg.scan_blank _).trans hscan

end Words

section Scripts

variable (tokens : List Token)

/-- One call is scanned as its words. -/
theorem scan_redisCli (args : List String) :
    ∃ s, scan ⟨tokens, none, .plain⟩ ("redis-cli $AUTH " ++ shellJoin args).toList = some s ∧
      EndsWith (tokens ++ redisCliTokens args) s := by
  have hcall : scan ⟨tokens, none, .plain⟩ "redis-cli $AUTH ".toList =
      some ⟨tokens ++ [.word (plainWord "redis-cli")] ++ [.word [.param "AUTH".toList false]], none,
        .plain⟩ := rfl
  obtain ⟨s, hscan, hends⟩ := scan_shellJoin
    (tokens ++ [.word (plainWord "redis-cli")] ++ [.word [.param "AUTH".toList false]]) args
  refine ⟨s, ?_, ?_⟩
  · rw [String.toList_append, scan_append, hcall, Option.bind_some, hscan]
  · rwa [append_assoc, append_assoc] at hends

/-- What stands between two calls. -/
def betweenTokens : List Token :=
  [.operator "&&".toList, .word (plainWord "echo"), .word (argWord "---"), .operator "&&".toList]

theorem scan_between :
    scan ⟨tokens, none, .plain⟩ "&& echo \"---\" && ".toList =
      some ⟨tokens ++ betweenTokens, none, .plain⟩ := by
  have hscan : scan ⟨tokens, none, .plain⟩ "&& echo \"---\" && ".toList =
      some ⟨tokens ++ [.operator "&&".toList] ++ [.word (plainWord "echo")] ++ [.word (argWord "---")] ++
        [.operator "&&".toList], none, .plain⟩ := rfl
  rw [hscan, append_assoc, append_assoc, append_assoc]
  rfl

/-- A chain is scanned as its calls. -/
theorem scan_chain (cmds : List (List String)) :
    ∃ s, scan ⟨tokens, none, .plain⟩ (" && echo \"---\" && ".intercalate
        (cmds.map fun cmd => "redis-cli $AUTH " ++ shellJoin cmd)).toList = some s ∧
      EndsWith (tokens ++ betweenTokens.intercalate (cmds.map redisCliTokens)) s := by
  rw [String.toList_intercalate, map_map]
  induction cmds generalizing tokens with
  | nil => exact ⟨_, rfl, rfl, by simp [Scan.flush]⟩
  | cons cmd rest ih =>
    obtain ⟨s, hscan, hends⟩ := scan_redisCli tokens cmd
    by_cases hrest : rest = []
    · subst hrest
      refine ⟨s, ?_, ?_⟩
      · rwa [map_singleton, intercalate_singleton]
      · rwa [map_singleton, intercalate_singleton]
    · -- The blank in front of the separator ends the last word of the call.
      have hsep : " && echo \"---\" && ".toList = ' ' :: "&& echo \"---\" && ".toList := rfl
      obtain ⟨s', hscan', hends'⟩ := ih (tokens ++ redisCliTokens cmd ++ betweenTokens)
      refine ⟨s', ?_, ?_⟩
      · rwa [map_cons, intercalate_cons_of_ne_nil (by simpa using hrest), append_assoc, scan_append,
          Function.comp_apply, hscan, Option.bind_some, hsep, cons_append, hends.scan_blank, scan_append,
          scan_between, Option.bind_some]
      · rwa [map_cons, intercalate_cons_of_ne_nil (by simpa using hrest), ← append_assoc,
          ← append_assoc]

/-- Between two calls a line is printed. -/
theorem commands_between {words : List Word} (hwords : words ≠ []) (connector : Connector) :
    commands connector words (betweenTokens ++ tokens) = (commands .and [] tokens).map fun rest =>
      (connector, simpleCommand words) :: (.and, echoCommand) :: rest := by
  rw [betweenTokens, cons_append, commands_operator rfl hwords]
  change ((commands .and [] tokens).map ((.and, echoCommand) :: ·)).map _ = _
  rw [Option.map_map]
  rfl

/-- A chain is read as its calls. -/
theorem commands_chain (connector : Connector) (cmd : List String) (rest : List (List String)) :
    commands connector [] (betweenTokens.intercalate ((cmd :: rest).map redisCliTokens)) =
      some ((connector, redisCliCommand cmd) ::
        rest.flatMap fun cmd => [(.and, echoCommand), (.and, redisCliCommand cmd)]) := by
  have hcall : ∀ args, simpleCommand (redisCliWords args) = redisCliCommand args := fun args => rfl
  have hwords : ∀ args, redisCliWords args ≠ [] := fun args => cons_ne_nil _ _
  induction rest generalizing connector cmd with
  | nil =>
    have hlast := commands_words connector [] (redisCliWords cmd) []
    rw [append_nil, nil_append] at hlast
    rw [map_singleton, intercalate_singleton, redisCliTokens, hlast, commands, if_neg (hwords cmd), hcall,
      flatMap_nil]
  | cons next others ih =>
    have hnext := ih .and next
    rw [map_cons] at hnext
    rw [map_cons, map_cons, intercalate_cons_cons, append_assoc]
    rw [show redisCliTokens cmd = (redisCliWords cmd).map .word from rfl, commands_words, nil_append,
      commands_between _ (hwords cmd), hnext, hcall]
    rfl

/-- The words of the part for the password. -/
def authTokens : List Token :=
  [.word (plainWord "AUTH="), .operator ";".toList, .word (plainWord "["), .word (plainWord "-n"),
    .word [.param "REDIS_PASSWORD".toList true], .word (plainWord "]"), .operator "&&".toList,
    .word (plainWord "AUTH=" ++ argWord "-a " ++ [.param "REDIS_PASSWORD".toList true] ++
      argWord " --no-auth-warning"), .operator ";".toList]

theorem commands_authTokens :
    commands .seq [] (authTokens ++ tokens) = (commands .seq [] tokens).map (authCommands ++ ·) := by
  change (((commands .seq [] tokens).map _).map _).map _ = _
  rw [Option.map_map, Option.map_map]
  rfl

/-- A script is read behind the part for the password. -/
theorem parse_authShellPrefix {script : String} {more : List Token} {rest : List (Connector × SimpleCommand)}
    (hscan : ∃ s, scan ⟨authTokens, none, .plain⟩ script.toList = some s ∧ EndsWith (authTokens ++ more) s)
    (hrest : commands .seq [] more = some rest) :
    parse (authShellPrefix ++ " " ++ script).toList = some (authCommands ++ rest) := by
  have hauth : scan ⟨[], none, .plain⟩ (authShellPrefix ++ " ").toList = some ⟨authTokens, none, .plain⟩ := by
    decide +kernel
  obtain ⟨s, hs, hends⟩ := hscan
  rw [parse, tokenize, String.toList_append, scan_append, hauth, Option.bind_some, hs, Option.bind_some,
    hends.finish_eq, Option.bind_some, commands_authTokens, hrest, Option.map_some]

end Scripts

/-- Whatever the arguments are, each is one word of quoted characters, and the script has only the
commands for the password, the calls, and the line between two answers. -/
theorem scripts_injection_free :
    (∀ args, tokenize (shellJoin args).toList = some (args.map fun arg => .word (quotedWord arg.toList))) ∧
      (∀ args, ∃ script, redisCliArgs args = ["sh", "-c", script] ∧
        parse script.toList = some (authCommands ++ [(.seq, redisCliCommand args)])) ∧
      ∀ cmds, ∃ script, redisCliChainArgs cmds = ["sh", "-c", script] ∧
        parse script.toList = some (authCommands ++ chainCommands cmds) := by
  refine ⟨fun args => ?_, fun args => ⟨_, rfl, ?_⟩, fun cmds => ⟨_, rfl, ?_⟩⟩
  · obtain ⟨s, hscan, hends⟩ := scan_shellJoin [] args
    rw [tokenize, hscan, Option.bind_some, hends.finish_eq, nil_append, map_map]
    rfl
  · have hone := commands_chain .seq args []
    rw [map_singleton, intercalate_singleton, flatMap_nil] at hone
    have hblank : " redis-cli $AUTH " = " " ++ "redis-cli $AUTH " := by decide
    rw [hblank, ← String.append_assoc, String.append_assoc]
    exact parse_authShellPrefix (scan_redisCli authTokens args) hone
  · apply parse_authShellPrefix (scan_chain authTokens cmds)
    cases cmds with
    | nil => rfl
    | cons cmd rest => exact commands_chain .seq cmd rest

example : shellJoin ["it's", ""] = "'it'\"'\"'s' ''" := by decide

end LittleRed.Lrctl
