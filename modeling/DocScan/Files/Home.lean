import DocScan.Files.Path

/-!
# Home directories

A path that starts with a tilde starts in a home directory: in that of the account whose name
follows the tilde, or in one's own. One's own home is what a variable says, if it is set.
-/

namespace DocScan

/-- The home directories of the accounts of a system: that of the account which runs the program,
and those of the accounts with a name. -/
structure Homes where
  own : Path
  named : List (Text × Path)
deriving DecidableEq, Repr

namespace Homes

/-- The path of a home directory as it is written. Slashes at its end mean nothing, and nothing else
than slashes is the root. A home cannot itself be looked for in a home. -/
def path? (text : Text) : Option Path :=
  if text.head? = some '~' then none
  else if text.all (· == '/') then some { root := ['/'] }
  else some (Path.ofText text)

/-- The home of an account. The variable counts for one's own alone. -/
def ofAccount? (homes : Homes) (given : Option Text) (account : Text) : Option Path :=
  if account = [] then
    match given with
    | some text => path? text
    | none => some homes.own
  else homes.named.lookup account

def expand (homes : Homes) (given : Option Text) (path : Path) : Option Path :=
  match path.root, path.names with
  | [], ('~' :: account) :: names =>
    (homes.ofAccount? given account).map fun home =>
      { root := home.root, names := home.names ++ names }
  | _, _ => some path

/-! ## Tables of accounts -/

def ofLine? (line : Text) : Option (Text × Path) :=
  match Text.split ':' line with
  | name :: _ :: _ :: _ :: _ :: home :: _ => some (name, Path.ofText home)
  | _ => none

/-- The accounts in a table with one line each. Of two lines for a name the first one counts. -/
def ofTable (table : Text) : List (Text × Path) := (Text.split '\n' table).filterMap ofLine?

def system : List (Text × Path) :=
  [("root", "/root"), ("daemon", "/usr/sbin"), ("bin", "/bin"), ("sys", "/dev"), ("sync", "/bin"),
   ("games", "/usr/games"), ("man", "/var/cache/man"), ("lp", "/var/spool/lpd"),
   ("mail", "/var/mail"), ("news", "/var/spool/news"), ("uucp", "/var/spool/uucp"),
   ("proxy", "/bin"), ("www-data", "/var/www"), ("backup", "/var/backups"), ("list", "/var/list"),
   ("irc", "/run/ircd"), ("_apt", "/nonexistent"), ("nobody", "/nonexistent")].map
    fun (name, home) => (name.toList, Path.ofText home.toList)

def standard : Homes := { own := Path.ofText "/root".toList, named := system }

end Homes

end DocScan
