import Persona.Text.Blank
import Persona.Text.Lowercase
import Persona.Text.Search

/-!
# Topics

What a message is about, found by keywords in its lower case, and what can be said to it.
-/

namespace Persona.Mention

inductive Topic where
  | metaLanguage
  | cofree
  | cuda
  | compiler
  | help
  | bug
  | feature
  | praise
  | question
  | general
  deriving DecidableEq, Repr

namespace Topic

def name : Topic → String
  | metaLanguage => "meta-language"
  | cofree => "cofree"
  | cuda => "cuda"
  | compiler => "compiler"
  | help => "help"
  | bug => "bug"
  | feature => "feature"
  | praise => "praise"
  | question => "question"
  | general => "default"

/-- The topics with keywords, the first to be looked for first. -/
def all : List Topic :=
  [metaLanguage, cofree, cuda, compiler, help, bug, feature, praise, question]

/-- A message with one of these is about the topic. -/
def keywords : Topic → List String
  | metaLanguage =>
    ["meta", "grammar", "specification", "spec", "language design"]
  | cofree =>
    ["cofree", "comonad", "annotation", "tree"]
  | cuda =>
    ["cuda", "gpu", "parallel", "vector4", "speedup", "rosettavm"]
  | compiler =>
    ["compiler", "parser", "typechecker", "evaluator", "codegen"]
  | help =>
    ["help", "how do i", "how to", "tutorial", "getting started", "install"]
  | bug =>
    ["bug", "error", "crash", "issue", "broken", "doesn't work", "failed"]
  | feature =>
    ["feature", "request", "would be nice", "could you add", "suggestion"]
  | praise =>
    ["amazing", "awesome", "cool", "love", "great", "fantastic", "brilliant"]
  | question =>
    ["what is", "why", "how does", "explain", "what's", "?"]
  | general => []

/-- What can be said: a first answer and others. -/
def answers : Topic → String × List String
  | metaLanguage =>
    ("Phi's core insight: grammar IS implementation. One spec → parser, typechecker, evaluator, compiler. The math is Cofree[F, A] — annotated trees all the way down. 📐",
      ["Meta-languages let you define languages by defining languages. Phi takes this recursive — your grammar compiles itself. Check the specs/ folder for examples!",
       "The magic is in how Phi specs are executable. Write `Expr = Num Int | Add Expr Expr` and you get a parser for free. The constructors ARE the grammar."])
  | cofree =>
    ("Cofree[F, A] = annotation `a` at every node, branching structure `f`. Every compiler phase annotates the same tree differently: positions → types → values → code.",
      ["The comonad structure gives you `extract` (get annotation) and `extend` (map with context). That's enough to derive all compiler phases from one spec!",
       "Think of Cofree as an infinitely annotated tree. Parser adds positions, typechecker adds types, evaluator adds values. Same tree, different decorations."])
  | cuda =>
    ("RosettaVM compiles Phi specs to CUDA. Tree traversals parallelize naturally — we see 4,375x speedup at scale. Try `./deploy.sh vector4` for GPU mode! ⚡",
      ["The GPU acceleration comes from how Cofree structures parallelize. Each node annotation is independent, so we can process them concurrently.",
       "Vector4 mode = your language specs running on thousands of CUDA cores. The daemon evolves specs hourly, learning what works."])
  | compiler =>
    ("Phi unifies compiler phases: parsing, typechecking, evaluation, codegen — all the same operation (annotating trees) with different annotations.",
      ["No boilerplate! Parser derived from constructors, evaluator from equations. The spec IS the implementation. Try the examples/ folder!",
       "Every compiler phase = Cofree[F, A] with different A. Parser: positions. Typechecker: types. Evaluator: values. One abstraction, infinite phases."])
  | help =>
    (Text.ofLines [
      "Getting started:", "```",
      "git clone --recursive https://github.com/eurisko-info-lab/phi-autonomous",
      "cd phi-autonomous", "./deploy.sh", "```",
      "Check specs/phi-core/examples/ for Phi code samples!"],
      ["Best starting point: specs/phi-core/README.md explains the core concepts. Then try the examples/hello/ folder. Questions welcome!",
       "For GPU mode: `./deploy.sh vector4`. For graceful shutdown: `touch kill.switch`. The daemon logs to phi_daemon.log."])
  | bug =>
    (Text.ofLines [
      "Thanks for the report! Could you share:", "1. What you were trying to do",
      "2. Expected behavior", "3. Actual behavior", "",
      "Issues welcome at github.com/eurisko-info-lab/phi-autonomous/issues"],
      ["Hmm, that's concerning. Can you open an issue with repro steps? The more details the better — we're actively fixing things.",
       "Bug hunting is valuable work! Please file at github.com/eurisko-info-lab/phi-autonomous/issues with details. We're on it."])
  | feature =>
    ("Feature ideas are welcome! Open an issue at github.com/eurisko-info-lab/phi-autonomous/issues with your use case. We prioritize based on community interest.",
      ["Interesting idea! The roadmap is in ARCHITECTURE.md. If this fits, let's discuss in an issue. What problem would this solve for you?",
       "We love suggestions! Please file at the repo with context on your use case. Community-driven development is the goal."])
  | praise =>
    ("Thank you! The real credit goes to the Cofree comonad — turns out the math was always there, waiting to be implemented. 🙏",
      ["Appreciate it! If you find it useful, a ⭐ on the repo helps others discover it. Also, contributions welcome!",
       "Thanks! We're just getting started. Stay tuned for more meta-language adventures. 🚀"])
  | question =>
    ("Great question! Phi is a meta-language where grammar = implementation. Check the README for the core concepts, or ask a specific question!",
      ["Happy to explain! The key insight is Cofree[F, A] — every compiler phase is the same operation with different annotations. What specifically are you curious about?",
       "Let me think about this... The answer depends on context. Can you be more specific about what you're trying to understand?"])
  | general =>
    ("Thanks for reaching out! Phi is a meta-language where specs ARE implementations. Check github.com/eurisko-info-lab/phi-autonomous for more!",
      ["Hello! I'm @phi, the autonomous daemon that evolves language specifications. How can I help?",
       "Greetings! Ask me about meta-languages, Cofree comonads, GPU compilation, or anything Phi-related."])

/-- The lower-case text holds one of the topic's keywords. -/
def occursIn (t : Topic) (lowered : String) : Bool :=
  t.keywords.any fun k => Text.contains lowered k

/-- The topics of a text, in their fixed order; a text without any is general. -/
def detect (text : String) : List Topic :=
  let lowered := Text.lower text
  match all.filter (·.occursIn lowered) with
  | [] => [general]
  | found => found

/-- The first topic of a text. -/
def primary (text : String) : Topic := (detect text).headD general

end Topic

end Persona.Mention
