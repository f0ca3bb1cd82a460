import RpcSchema.Proofs.SurroundedReading

/-! # Printed source files are read

A printed file is a file with nothing around its functions and in them. The signatures found
in it are those that its function declarations stand for, unless a type in one of them
misleads the type before it. -/
namespace RpcSchema.FileReading
open PrintedSource hiding packageClause
open FunctionReading SurroundedSource SurroundedReading

/-- The package of the printed files. -/
def package : Name := ⟨['p'], by decide, by decide⟩

theorem fileText_eq (fs : List FunctionDeclaration) : fileText fs = bareText package fs := rfl

theorem signaturesOf_fileText_eq (fs : List FunctionDeclaration) :
    signaturesOf (fileText fs) = .ok (fs.map fun f => (functionOf f).signature) := by
  rw [fileText_eq, ← text_bareFile, signaturesOf_text, functions_bareFile]

/-- Every printed file has signatures. They are those of its declarations if and only if no
type in a list misleads the type before it. -/
theorem signaturesOf_fileText (fs : List FunctionDeclaration) :
    (∃ signatures, signaturesOf (fileText fs) = .ok signatures) ∧
      (signaturesOf (fileText fs) = .ok (fs.map FunctionDeclaration.signature) ↔
        ∀ f ∈ fs, f.IsClear) := by
  refine ⟨⟨_, signaturesOf_fileText_eq fs⟩, ?_⟩
  rw [signaturesOf_fileText_eq, Except.ok.injEq, List.map_inj_left]
  constructor
  · exact fun h f hf => signature_functionOf_iff.1 (h f hf)
  · exact fun h f hf => signature_functionOf_iff.2 (h f hf)

/-- A list of a name and a map type, whose key is a name. -/
def misleadingDeclaration : FunctionDeclaration where
  name := ⟨['F'], by decide, by decide⟩
  parameters := .unnamed [.name ⟨['a'], by decide, by decide⟩,
    .map (.name ⟨['k'], by decide, by decide⟩) (.name ⟨['v'], by decide, by decide⟩)]
  results := .listed (.unnamed [])

/-- The two types are read as two names of one array type. -/
theorem signaturesOf_misleading :
    fileText [misleadingDeclaration] = "package p\nfunc F(a, map[k]v) \x7b\x7d\n".toList ∧
      misleadingDeclaration.signature = ⟨['F'], [⟨"arg1".toList, .scalar ['a']⟩,
        ⟨"arg2".toList, .unsupported "map[k]v".toList⟩], []⟩ ∧
      signaturesOf (fileText [misleadingDeclaration]) = .ok [⟨['F'],
        [⟨['a'], .arrayOf ['v']⟩, ⟨"map".toList, .arrayOf ['v']⟩], []⟩] ∧
      signaturesOf (fileText [misleadingDeclaration]) ≠ .ok [misleadingDeclaration.signature] := by
  decide +kernel

end RpcSchema.FileReading
