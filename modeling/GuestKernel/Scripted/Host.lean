import GuestKernel.Memory.FileChannel

/-!
# A host that finds files by their paths

A `HostTree` is a tree of directories, files and symbolic links, made place by place with
`HostTree.plant`. A `ScriptedHost` has one and opens the file that a path names for reading and
writing, or says why that fails.

The tree is handed in: which files a host has, and which of them refuse to be opened, is NOT decided
here.
-/

set_option autoImplicit false

namespace GuestKernel

/-- Why a path cannot be opened for reading and writing. -/
inductive OpenFailure where
  | containsNul
  | notPermitted
  | notFound
  /-- The file is a device without anything behind it. -/
  | noDevice
  /-- The file is only for reading, or only for writing. -/
  | permissionDenied
  | notDirectory
  | isDirectory
  | busy
  /-- The file lies where nothing may be written. -/
  | readOnly
  | nameTooLong
  | tooManyLinks
  deriving DecidableEq

def OpenFailure.text : OpenFailure → String
  | containsNul => "file name contained an unexpected NUL byte"
  | notPermitted => "Operation not permitted (os error 1)"
  | notFound => "No such file or directory (os error 2)"
  | noDevice => "No such device or address (os error 6)"
  | permissionDenied => "Permission denied (os error 13)"
  | notDirectory => "Not a directory (os error 20)"
  | isDirectory => "Is a directory (os error 21)"
  | busy => "Text file busy (os error 26)"
  | readOnly => "Read-only file system (os error 30)"
  | nameTooLong => "File name too long (os error 36)"
  | tooManyLinks => "Too many levels of symbolic links (os error 40)"

inductive HostTree where
  /-- A file, and why it cannot be opened if it cannot. -/
  | file (refusal : Option OpenFailure)
  /-- A directory. Where it has a limit, no name in it is longer than so many bytes. -/
  | directory (nameLimit : Option Nat) (entries : List (String × HostTree))
  /-- A link to where names lead from the root, or else from the directory that the link lies in. -/
  | link (fromRoot : Bool) (target : List String)

namespace HostTree

def stored : HostTree := directory (some 255) []

/-- An empty directory that the host makes up when it is asked. -/
def generated : HostTree := directory none []

/-- Puts a place where names lead to, in generated directories where there is nothing yet. -/
def plant (place : HostTree) : List String → HostTree → HostTree
  | name :: names, directory nameLimit entries =>
    let inner := (entries.lookup name).getD generated
    directory nameLimit ((name, plant place names inner) :: entries)
  | _, _ => place

def maxPath : Nat := 4095

def maxLinks : Nat := 40

def exceeds (nameLimit : Option Nat) (name : String) : Bool :=
  nameLimit.any (· < name.utf8ByteSize)

/-- Follows names downwards from a place, and at most `links` links on the way. `above` are the
directories that the place lies in, the nearest first; the root lies in itself. -/
def follow (root : HostTree) (links : Nat) (above : List HostTree) (place : HostTree) :
    List String → Except OpenFailure HostTree
  | [] => .ok place
  | name :: rest =>
    match place with
    | directory nameLimit entries =>
      if name = "." then follow root links above place rest
      else if name = ".." then
        match above with
        | [] => follow root links [] place rest
        | parent :: above => follow root links above parent rest
      else if exceeds nameLimit name then .error .nameTooLong
      else
        match entries.lookup name with
        | none => .error .notFound
        | some (link fromRoot target) =>
          match links with
          | 0 => .error .tooManyLinks
          | links + 1 =>
            if fromRoot then follow root links [] root (target ++ rest)
            else follow root links above place (target ++ rest)
        | some next => follow root links (place :: above) next rest
    | _ => .error .notDirectory
  termination_by names => (links, names.length)

end HostTree

/-- A host: its tree, and the names that lead to the directory where paths without a leading slash
start. -/
structure ScriptedHost where
  root : HostTree
  working : List String

namespace ScriptedHost

open HostTree

def names (path : String) : List String := (path.splitOn "/").filter (!·.isEmpty)

/-- What lies at a path, if it can be opened; a path that ends with a slash names a directory. -/
def find (host : ScriptedHost) (path : String) : Except OpenFailure Unit :=
  if path.contains '\x00' then .error .containsNul
  else if path.isEmpty then .error .notFound
  else if maxPath < path.utf8ByteSize then .error .nameTooLong
  else
    let start := if path.startsWith "/" then [] else host.working
    match follow host.root maxLinks [] host.root (start ++ names path) with
    | .error failure => .error failure
    | .ok (directory _ _) => .error .isDirectory
    -- Links are followed where they are met, so this one is the root.
    | .ok (link _ _) => .error .tooManyLinks
    | .ok (file refusal) =>
      if path.endsWith "/" then .error .notDirectory
      else
        match refusal with
        | none => .ok ()
        | some failure => .error failure

/-- Opens the file at a path, of which nothing but its being open is told. -/
def openFile (host : ScriptedHost) (path : String) : Except String Unit :=
  (host.find path).mapError OpenFailure.text

end ScriptedHost

end GuestKernel
