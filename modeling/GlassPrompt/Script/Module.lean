import GlassPrompt.Script.Function

/-!
# The generated module

All compiled prompts go into one module, with their import statements at its head and an object of the
functions at its end.

* `runtimeImport` — the statement that imports the runtime.
* `moduleText` — the module.
-/

namespace GlassPrompt

/-- The statement that imports the runtime from the given module. -/
def runtimeImport (runtime : Text) : Text :=
  "import \x7b ".toList ++ commaList [entryPoint false, entryPoint true] ++ " \x7d from '".toList ++
    runtime ++ ['\'']

/-- The import statements of a module, each once; an empty runtime is not imported. -/
def moduleImports (runtime : Option Text) (functions : List PromptFunction) : List Text :=
  (((runtime.filter (!·.isEmpty)).toList.map runtimeImport) ++
    functions.flatMap PromptFunction.imports).eraseDups

/-- The text of a function in a module: without its import statements, if it is there. -/
def PromptFunction.moduleCode (function : PromptFunction) : Text :=
  if function.functionCode.isEmpty then function.code else function.functionCode

/-- The module of the given functions. -/
def moduleText (runtime : Option Text) (functions : List PromptFunction) : Text :=
  "// THIS FILE WAS GENERATED BY GLASS -- DO NOT EDIT!\n\n".toList ++
    importBlock (moduleImports runtime functions) ++
    functions.flatMap (fun function => function.moduleCode ++ "\n\n".toList) ++
    "export const Glass = \x7b\n".toList ++
    functions.flatMap (fun function =>
      "  ".toList ++ function.functionName ++ ": ".toList ++ function.exportName ++ ",\n".toList) ++
    "\x7d\n".toList

end GlassPrompt
