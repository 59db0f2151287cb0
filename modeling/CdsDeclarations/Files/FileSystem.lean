import CdsDeclarations.Files.FileTree

/-!
# File systems

The three things that the program does with files, over any monad. A file tree in memory is one.
-/

namespace CdsDeclarations

structure FileSystem (m : Type → Type) where
  readText : String → m (Except FileFault String)
  makeDirectories : String → m (Except FileFault Unit)
  writeText : String → String → m (Except FileFault Unit)

/-- The file system of a tree that is carried along. -/
def FileTree.system : FileSystem (StateM FileTree) where
  readText path := fun tree => (tree.readText path, tree)
  makeDirectories path := fun tree =>
    let (tree, result) := tree.makeDirectories path
    (result, tree)
  writeText path content := fun tree =>
    match tree.writeText path content with
    | .ok tree => (.ok (), tree)
    | .error fault => (.error fault, tree)

end CdsDeclarations
