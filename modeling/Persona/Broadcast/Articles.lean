import Persona.Json.Basic
import Persona.Text.Blank

/-!
# Articles

What is broadcast: a short text and a long article with its title.
-/

namespace Persona.Broadcast

structure Article where
  title : String
  short : String
  long : String

/-- The article as a value with a field for each part. -/
def Article.json (a : Article) : Json :=
  .obj [("short", .str a.short), ("title", .str a.title), ("long", .str a.long)]

def grammarArticle : Article :=
  { title := "Phi: When Your Grammar IS Your Implementation"
    short := Text.ofLines [
      "🚀 Phi: A meta-language where grammar = implementation", "",
      "One spec → parser, typechecker, evaluator, compiler.", "",
      "Built on Cofree[F, A] — annotated trees all the way down.", "",
      "https://github.com/eurisko-info-lab/phi"]
    long := Text.ofLines [
      "# Phi: When Your Grammar IS Your Implementation", "",
      "What if you could write a language specification and have it *be* the implementation?",
      "", "```", "Expr = Num Int | Add Expr Expr", "eval (Num n) = n",
      "eval (Add a b) = eval a + eval b", "```", "",
      "That's a complete language in Phi. Parser derived from constructors. Evaluator from equations.",
      "", "## The Math: Cofree[F, A]", "",
      "Every compiler phase is the same operation — annotating a tree:",
      "- Parser: annotate with source positions", "- Typechecker: annotate with types",
      "- Evaluator: annotate with values", "- Codegen: annotate with target code", "",
      "Same structure. Different annotations. All derived.", "", "## Try It", "", "```bash",
      "git clone --recursive https://github.com/eurisko-info-lab/phi-autonomous", "./deploy.sh",
      "```", "", "Feedback welcome from PL researchers and compiler enthusiasts!", "",
      "https://github.com/eurisko-info-lab/phi", ""] }

def machineArticle : Article :=
  { title := "RosettaVM: GPU-Accelerated Language Specifications"
    short := Text.ofLines [
      "⚡ RosettaVM: Running language specs on GPU", "", "4,375x speedup at scale.",
      "Compiles Phi → CUDA.", "Self-evolving daemon included.", "",
      "https://github.com/eurisko-info-lab/phi-autonomous"]
    long := Text.ofLines [
      "# RosettaVM: GPU-Accelerated Language Specifications", "",
      "What if your language specs could run on GPU?", "",
      "RosettaVM compiles Phi specifications to CUDA, achieving:", "- CPU baseline: 1x",
      "- CUDA (small): 12x", "- CUDA (large): 4,375x", "", "## How It Works", "",
      "Phi specs are Cofree[F, A] — annotated trees. Tree traversals parallelize naturally.", "",
      "The RosettaVM runtime:", "1. Parses .phi specs",
      "2. Generates CUDA kernels for tree operations", "3. Executes with massive parallelism",
      "", "## The Self-Evolving Daemon", "",
      "Φ-AUTONOMOUS runs RosettaVM hourly, evolving its own behavior:", "", "```bash",
      "./deploy.sh vector4  # GPU mode", "touch kill.switch    # Graceful halt", "```", "",
      "https://github.com/eurisko-info-lab/phi-autonomous", ""] }

def comonadArticle : Article :=
  { title := "Cofree Comonads: Unifying Compiler Phases"
    short := Text.ofLines [
      "🔄 Cofree comonads in practice:", "", "Every compiler phase = annotating a tree.",
      "One abstraction unifies parsing, typing, evaluation, codegen.", "",
      "Phi makes it executable.", "", "https://github.com/eurisko-info-lab/phi"]
    long := Text.ofLines [
      "# Cofree Comonads: Unifying Compiler Phases", "",
      "The insight that powers Phi: every compiler phase is the same operation.", "",
      "## Cofree[F, A]", "", "```haskell", "data Cofree f a = a :< f (Cofree f a)", "```", "",
      "An annotation `a` at every node. A branching structure `f`. Infinite recursion, finite representation.",
      "", "## Compiler Phases as Annotations", "", "| Phase | Annotation |",
      "|-------|------------|", "| Parser | Source positions |", "| Typechecker | Types |",
      "| Evaluator | Values |", "| Codegen | Target code |", "",
      "Same tree. Different annotations. All derived from one spec.", "", "## In Phi", "",
      "```phi", "Expr = Num Int | Add Expr Expr", "eval (Num n) = n",
      "eval (Add a b) = eval a + eval b", "```", "",
      "Parser derived from constructors. Evaluator from equations. No boilerplate.", "",
      "https://github.com/eurisko-info-lab/phi", ""] }

/-- All articles, the first apart. -/
def articles : Article × List Article := (grammarArticle, [machineArticle, comonadArticle])

end Persona.Broadcast
