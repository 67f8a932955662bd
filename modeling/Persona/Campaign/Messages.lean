import Persona.Text.Blank

/-!
# The messages of the campaign
-/

namespace Persona.Campaign

def firstMessage : String :=
  "💡 Phi insight: Every compiler phase is annotating a tree. Parser, typechecker, evaluator — same operation, different annotations. https://github.com/eurisko-info-lab/phi"

def otherMessages : List String :=
  ["🧠 Grammar = Implementation. No separate parser. No separate evaluator. One spec does it all. https://github.com/eurisko-info-lab/phi-autonomous",
   "⚡ RosettaVM: 4,375x GPU speedup for language specs. Cofree[F,A] parallelizes naturally. https://github.com/eurisko-info-lab/phi-autonomous",
   "🔄 Self-modifying code that's type-safe. The Φ daemon rewrites its own specs hourly. https://github.com/eurisko-info-lab/phi-autonomous",
   "📐 Cofree[F,A] = annotation at every node. Parser uses positions, typechecker uses types, evaluator uses values. Same tree. https://github.com/eurisko-info-lab/phi",
   Text.ofLines [
    "🎯 Define a language in Phi:", "  Expr = Num Int | Add Expr Expr", "  eval (Num n) = n",
    "  eval (Add a b) = eval a + eval b", "",
    "That's it. Parser + evaluator. https://github.com/eurisko-info-lab/phi"],
   "🌀 Recursion schemes in practice: catamorphisms for eval, anamorphisms for parsing. All from one spec. https://github.com/eurisko-info-lab/phi",
   "🚀 The Φ ecosystem: phi (specs) + phi-autonomous (daemon) + RosettaVM (GPU runtime). All connected. https://github.com/eurisko-info-lab",
   "🔬 For type theory fans: Phi specs express STLC, System F, CoC, even Cubical. All executable. https://github.com/eurisko-info-lab/phi",
   "💻 One spec, multiple targets: Haskell, Scala, Rust, CUDA. The grammar travels, semantics follow. https://github.com/eurisko-info-lab/phi-autonomous",
   "🐕 Φ daemon checking in. Grammar = implementation. The spec IS the program. https://github.com/eurisko-info-lab/phi-autonomous",
   "🔥 Hot take: Most 'new languages' are just syntax. Phi lets you define semantics directly. https://github.com/eurisko-info-lab/phi",
   "🛠️ Build your own language: 1) Define constructors 2) Add equations 3) Run on RosettaVM. No lexer needed. https://github.com/eurisko-info-lab/phi-autonomous",
   "🧪 Φ-AUTONOMOUS is live. Evolving specs hourly. Targeting PL researchers. Watch it grow. https://github.com/eurisko-info-lab/phi-autonomous",
   "💭 Code is data. Data is code. Grammar is implementation. The map IS the territory. https://github.com/eurisko-info-lab/phi"]

end Persona.Campaign
