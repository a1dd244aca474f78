import Mathlib.Data.List.Basic

namespace TrpcService.Data

/-! POSIX paths, and what they name in a tree that does not change. -/

inductive Anchor where
  | relative
  | slash
  | doubleSlash
  deriving DecidableEq, Repr

/-- A path without its empty and `.` segments. -/
structure PosixPath where
  anchor : Anchor
  parts : List String
  deriving DecidableEq, Repr

namespace PosixPath

def parse (raw : String) : PosixPath where
  anchor :=
    match raw.toList with
    | '/' :: '/' :: '/' :: _ => .slash
    | '/' :: '/' :: _ => .doubleSlash
    | '/' :: _ => .slash
    | _ => .relative
  parts := ((raw.toList.splitOn '/').map String.ofList).filter fun part => part ≠ "" ∧ part ≠ "."

def isAbsolute (path : PosixPath) : Bool := path.anchor ≠ .relative

def join (path : PosixPath) (part : String) : PosixPath :=
  { path with parts := path.parts ++ [part] }

def relativeTo (path root : PosixPath) : Option (List String) :=
  if path.anchor = root.anchor ∧ root.parts <+: path.parts then
    some (path.parts.drop root.parts.length)
  else none

def isParentOf (root path : PosixPath) : Bool :=
  path.anchor = root.anchor ∧ root.parts <+: path.parts ∧ root.parts ≠ path.parts

def start (path : PosixPath) (directory : List String) : List String :=
  if path.isAbsolute then [] else directory

theorem eq_of_relativeTo {path root : PosixPath} {below : List String}
    (relative : path.relativeTo root = some below) :
    path.anchor = root.anchor ∧ path.parts = root.parts ++ below := by
  unfold relativeTo at relative
  split at relative
  · rename_i starts
    obtain ⟨sameAnchor, rest, split⟩ := starts
    simp only [← split, List.drop_left, Option.some.injEq] at relative
    exact ⟨sameAnchor, by rw [← split, relative]⟩
  · cases relative

end PosixPath

/-- How a call fails: for a missing file, another error of the system, or an
argument that is no path at all. -/
inductive Trouble where
  | fileNotFound
  | osError
  | valueError
  deriving DecidableEq, Repr

inductive Node where
  | directory
  | file (content : List UInt8)
  | link (target : PosixPath)
  deriving DecidableEq, Repr

/-- What stands at the places of the tree, each named by the directories on the
way from the top. -/
structure Tree where
  workingDirectory : List String
  linkLimit : Nat
  node : List String → Except Trouble Node

namespace Tree

variable (tree : Tree)

def walkWith (follow : List String → List String → Except Trouble (List String)) :
    List String → List String → Except Trouble (List String)
  | current, [] => .ok current
  | current, part :: rest =>
      if part = ".." then walkWith follow current.dropLast rest
      else
        match tree.node (current ++ [part]) with
        | .error trouble => .error trouble
        | .ok .directory => walkWith follow (current ++ [part]) rest
        | .ok (.file _) => if rest = [] then .ok (current ++ [part]) else .error .osError
        | .ok (.link target) => follow (target.start current) (target.parts ++ rest)

/-- The walk of the system along a path, through a bounded number of links. -/
def walk : Nat → List String → List String → Except Trouble (List String)
  | 0 => tree.walkWith fun _ _ => .error .osError
  | links + 1 => tree.walkWith (walk links)

/-- The place that the path names. -/
def realPath (path : PosixPath) : Except Trouble (List String) :=
  tree.walk tree.linkLimit (path.start tree.workingDirectory) path.parts

/-- What stands at the path itself: a link there is not followed. -/
def lstat (path : PosixPath) : Except Trouble Node :=
  match path.parts.getLast? with
  | none => tree.node (path.start tree.workingDirectory)
  | some last =>
      if last = ".." then (tree.realPath path).bind tree.node
      else (tree.realPath { path with parts := path.parts.dropLast }).bind
          fun parent => tree.node (parent ++ [last])

def readBytes (path : PosixPath) : Except Trouble (List String × List UInt8) :=
  match tree.realPath path with
  | .error trouble => .error trouble
  | .ok place =>
      match tree.node place with
      | .error trouble => .error trouble
      | .ok (.file content) => .ok (place, content)
      | .ok _ => .error .osError

variable {tree} {follow : List String → List String → Except Trouble (List String)}
  {current front back target : List String}

theorem walkWith_append (followed : ∀ {current front back target},
      follow current (front ++ back) = .ok target →
      ∃ middle links, follow current front = .ok middle ∧ tree.walk links middle back = .ok target)
    (walked : ∀ {current parts target}, tree.walkWith follow current parts = .ok target →
      ∃ links, tree.walk links current parts = .ok target)
    (reached : tree.walkWith follow current (front ++ back) = .ok target) :
    ∃ middle links, tree.walkWith follow current front = .ok middle ∧
      tree.walk links middle back = .ok target := by
  induction front generalizing current with
  | nil =>
    obtain ⟨links, rest⟩ := walked reached
    exact ⟨current, links, rfl, rest⟩
  | cons part front hypothesis =>
    simp only [List.cons_append, walkWith] at reached ⊢
    by_cases up : part = ".."
    · simp only [if_pos up] at reached ⊢
      exact hypothesis reached
    simp only [if_neg up] at reached ⊢
    cases found : tree.node (current ++ [part]) with
    | error trouble => simp [found] at reached
    | ok node =>
      cases node with
      | directory =>
        simp only [found] at reached ⊢
        exact hypothesis reached
      | file content =>
        -- A file ends the walk, so nothing is left for the second part.
        simp only [found, List.append_eq_nil_iff] at reached ⊢
        split at reached
        · rename_i ends
          obtain ⟨rfl, rfl⟩ := ends
          cases reached
          exact ⟨_, 0, rfl, rfl⟩
        · cases reached
      | link destination =>
        simp only [found, ← List.append_assoc] at reached ⊢
        exact followed reached

theorem walk_append {links : Nat} (reached : tree.walk links current (front ++ back) = .ok target) :
    ∃ middle left, tree.walk links current front = .ok middle ∧
      tree.walk left middle back = .ok target := by
  induction links generalizing current front back target with
  | zero =>
    apply walkWith_append _ _ reached
    · intro _ _ _ _ impossible
      cases impossible
    · intro _ _ _ walked
      exact ⟨0, walked⟩
  | succ links hypothesis =>
    apply walkWith_append hypothesis _ reached
    intro _ _ _ walked
    exact ⟨links + 1, walked⟩

theorem walk_down {links : Nat} {part : String} {rest : List String} (down : part ≠ "..")
    (direct : ∀ link, tree.node (current ++ [part]) ≠ .ok (.link link))
    (reached : tree.walk links current (part :: rest) = .ok target) :
    tree.walk links (current ++ [part]) rest = .ok target := by
  have stepped : ∀ {follow : List String → List String →
      Except Trouble (List String)},
      tree.walkWith follow current (part :: rest) = .ok target →
      tree.walkWith follow (current ++ [part]) rest = .ok target := by
    intro follow reached
    simp only [walkWith, if_neg down] at reached
    cases found : tree.node (current ++ [part]) with
    | error trouble => simp [found] at reached
    | ok node =>
      cases node with
      | directory =>
        simp only [found] at reached
        exact reached
      | file content =>
        simp only [found] at reached
        split at reached
        · rename_i ends
          rw [ends]
          exact reached
        · cases reached
      | link destination => exact absurd found (direct destination)
  cases links with
  | zero => exact stepped reached
  | succ links => exact stepped reached

end Tree

/-- A tree together with the function that makes a path absolute and free of
links, as far as the path exists. -/
structure FileSystem extends Tree where
  resolve : PosixPath → Except Trouble PosixPath
  resolve_anchor : ∀ {path real}, resolve path = .ok real → real.anchor = .slash
  resolve_real : ∀ {path real place}, resolve path = .ok real →
    toTree.realPath real = .ok place → place = real.parts
  resolve_place : ∀ {path real place}, resolve path = .ok real →
    toTree.realPath path = .ok place → place = real.parts

end TrpcService.Data
