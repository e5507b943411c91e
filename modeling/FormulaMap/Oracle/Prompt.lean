import FormulaMap.Record.Basic

/-!
# Prompts

The text that asks for the symbols of one formula.  It holds the source text of the method, its
formula text, the candidate variables and calls, the rules for choosing among them, and one worked
example.
-/

namespace FormulaMap
namespace Oracle

/-- A set of names as a compact list. -/
def listed (names : NameSet) : String :=
  (Json.Value.ofStrings names.toList).compact

/-- The text that asks about a method. -/
def prompt (record : MethodRecord) : String :=
  "You are an expert in code semantics. Analyze the Java method below and map every " ++
  "symbol of its formula to the code that implements it.\n" ++
  "\n" ++
  "### Input\n" ++
  "1. Code:\n" ++
  "```java\n" ++
  record.code ++
  "\n" ++
  "```\n" ++
  "2. Formula: " ++
  record.documentation ++
  "\n" ++
  "3. Available variables: " ++
  listed record.candidates ++
  "\n" ++
  "4. Method calls: " ++
  listed record.calls ++
  "\n" ++
  "\n" ++
  "### Task\n" ++
  "Extract ALL symbols of the formula, both the result on the left of `=` and every " ++
  "parameter on the right, and find the code that implements each one.\n" ++
  "\n" ++
  "### Matching rules\n" ++
  "1. Every symbol that appears in the formula must be an output key.\n" ++
  "2. Priority for each key, highest first:\n" ++
  "   a. A variable whose name matches the symbol's meaning (e.g. `m` -> `mass`). Use " ++
  "the variable name even if the variable is computed by a complex expression.\n" ++
  "   b. A method call or expression that computes the symbol directly (e.g. `term` -> " ++
  "`b.sqr(c)`). Keep the full call text.\n" ++
  "   c. A numeric constant written in the code (e.g. `9.8`).\n" ++
  "   d. null, when nothing in the code implements the symbol. Never fill in an " ++
  "unrelated variable.\n" ++
  "3. The symbol on the left-hand side of the equation is the RESULT. It corresponds " ++
  "to the return statement: if no variable holds it, map it to the returned " ++
  "expression, or null if that cannot be extracted. Never map it to an input " ++
  "parameter.\n" ++
  "4. Do not output keys that do not appear in the formula text.\n" ++
  "\n" ++
  "### Example\n" ++
  "Formula: R = base + term\n" ++
  "Code: return sum(base, calc(freq));\n" ++
  "Output:\n" ++
  "\x7b\"R\": \"sum(base, calc(freq))\", \"base\": \"base\", \"term\": \"calc(freq)\"\x7d\n" ++
  "\n" ++
  "Output only the JSON object."

end Oracle
end FormulaMap
