/-
What can be written on the command line: four commands, and for each of
them options and words. An option has a name, which stands after two
hyphens, and some have a letter, which stands after one; a word is known
by its place.
-/
namespace Restoration.CommandLine

-- =============================================================== commands

/-- A command. -/
inductive Verb
  | serve
  | findCheckpoint
  | restore
  | version
  deriving DecidableEq, Repr

namespace Verb

/-- All commands. -/
def all : List Verb := [.serve, .findCheckpoint, .restore, .version]

/-- What a command is called. -/
def name : Verb → String
  | .serve => "serve"
  | .findCheckpoint => "find-checkpoint"
  | .restore => "restore"
  | .version => "version"

/-- What a command does. -/
def about : Verb → String
  | .serve => "Load the checkpoint, publish a tunnel and serve POST /restore"
  | .findCheckpoint => "Print the checkpoint that `serve` would load"
  | .restore => "Send text to a running server and print the prediction"
  | .version => ""

/-- The command with a name. -/
def ofName? (name : String) : Option Verb := all.find? (·.name = name)

end Verb

-- ================================================================= items

/-- An option or a word. -/
inductive Item
  | inputDirectory
  | host
  | port
  | domain
  | python
  | checkout
  | withoutTunnel
  | withoutPreparation
  | text
  | url
  | help
  | version
  deriving DecidableEq, Repr

namespace Item

/-- What an item is called. -/
def name : Item → String
  | .inputDirectory => "input-dir"
  | .host => "host"
  | .port => "port"
  | .domain => "domain"
  | .python => "python"
  | .checkout => "repo-dir"
  | .withoutTunnel => "no-tunnel"
  | .withoutPreparation => "skip-bootstrap"
  | .text => "text"
  | .url => "url"
  | .help => "help"
  | .version => "version"

/-- The letter of an option. -/
def letter? : Item → Option Char
  | .port => some 'p'
  | .url => some 'u'
  | .help => some 'h'
  | .version => some 'V'
  | _ => none

/-- Whether a value belongs to an item. -/
def takesValue : Item → Bool
  | .withoutTunnel | .withoutPreparation | .help | .version => false
  | _ => true

/-- What an item is for. -/
def about : Item → String
  | .inputDirectory => "Directory scanned for the checkpoint"
  | .domain => "Static tunnel domain"
  | .help => "Print help"
  | .version => "Print version"
  | _ => ""

/-- What stands for the value of an item. -/
def placeholder (i : Item) : String :=
  "<" ++ (i.name.map fun c => if c = '-' then '_' else c.toUpper) ++ ">"

/-- How messages name an item. -/
def display (i : Item) : String :=
  if i = .text then i.placeholder
  else if i.takesValue then s!"--{i.name} {i.placeholder}"
  else s!"--{i.name}"

end Item

-- ================================================================= forms

/-- The options that stand before a command. -/
def topOptions : List Item := [.help, .version]

/-- The options of a command. -/
def Verb.options : Verb → List Item
  | .serve =>
    [.inputDirectory, .host, .port, .domain, .python, .checkout, .withoutTunnel,
      .withoutPreparation, .help]
  | .findCheckpoint => [.inputDirectory, .help]
  | .restore => [.url, .help]
  | .version => [.help]

/-- The words of a command, all of which have to be there. -/
def Verb.words : Verb → List Item
  | .restore => [.text]
  | _ => []

end Restoration.CommandLine
