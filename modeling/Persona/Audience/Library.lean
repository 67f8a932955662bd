import Persona.Text.Blank

/-!
# The library of tweets

What is posted day by day, and answers to keywords worth watching.
-/

namespace Persona.Audience

def firstTweet : String :=
  Text.ofLines [
    "PyTorch shape errors at 3am? ", "", "In Phi, Tensor [32, 768] is a TYPE.",
    "Wrong dimensions = won't compile.", "",
    "Your loss function can't be NaN if your code can't run wrong shapes.", "",
    "github.com/eurisko-info-lab/phi"]

def otherTweets : List String :=
  [Text.ofLines [
     "Hot take: Qiskit is doing quantum computing wrong.", "",
     "The no-cloning theorem should be in the TYPE SYSTEM.",
     "If you can copy a qubit, your code shouldn't compile.", "",
     "Phi uses linear types (⊸) for this.", "Physics as types.", "",
     "github.com/eurisko-info-lab/phi"],
    Text.ofLines [
     "What if your programming language knew physics?", "", "In Phi:",
     "• Hilbert spaces are types", "• Unitarity is a type constraint  ",
     "• Measurement collapses the type", "", "The compiler knows quantum mechanics.", "",
     "github.com/eurisko-info-lab/phi"],
    Text.ofLines [
     "AI frameworks in 2026:", "- PyTorch: shape error at runtime",
     "- TensorFlow: deprecated API warnings", "- JAX: \"just use vmap bro\"", "",
     "Phi: if it compiles, the math is correct.", "", "github.com/eurisko-info-lab/phi"],
    Text.ofLines [
     "🧵 Why type systems matter for AI:", "",
     "A thread on how Phi catches bugs that PyTorch can't.", "",
     "1/ The problem: neural networks are just matrix multiplication chains. Get one dimension wrong → runtime crash."],
    Text.ofLines [
     "🧵 Quantum computing needs linear types.", "",
     "Here's why the no-cloning theorem should be enforced by your compiler, not your discipline.",
     "",
     "1/ In quantum mechanics, you cannot copy an unknown quantum state. This is physics, not a bug."],
    Text.ofLines [
     "🧵 What is Cofree[F, A] and why should you care?", "",
     "A thread on the data structure that makes Phi possible.", "",
     "1/ Imagine an AST where every node carries both data AND the recipe to interpret itself."],
    Text.ofLines [
     "Unpopular opinion:", "", "Most \"type-safe\" ML libraries aren't actually type-safe.", "",
     "They check types at runtime.", "That's just assertions with extra steps.", "",
     "Real type safety = compile-time guarantees."],
    Text.ofLines [
     "Question for ML engineers:", "",
     "What's the weirdest shape error that took you hours to debug?", "",
     "I'll start: transposed a batch dimension in a transformer attention mask. Silently trained on garbage for 3 days."],
    Text.ofLines [
     "If you could add ONE feature to PyTorch, what would it be?", "",
     "My answer: compile-time shape checking.", "", "No more:",
     "RuntimeError: mat1 and mat2 shapes cannot be multiplied (32x768 and 512x768)"],
    Text.ofLines [
     "The Curry-Howard correspondence says:", "Types = Propositions", "Programs = Proofs", "",
     "For AI, this means:", "Tensor shapes = Mathematical constraints",
     "Your model = Proof that the math works", "",
     "If it type-checks, it's mathematically valid."],
    Text.ofLines [
     "Why does Phi use Cofree[F, A]?", "",
     "Because it's the universal way to build recursive data structures with annotations.", "",
     "AST? Cofree.", "Neural network layers? Cofree.", "Quantum circuits? Cofree.", "",
     "One pattern to rule them all."],
    Text.ofLines [
     "The future of programming languages:", "", "2020: Types check syntax",
     "2025: Types check shapes  ", "2030: Types check physics", "", "Phi is already at 2030.",
     "Hilbert spaces, unitarity, no-cloning — all in the type system."],
    Text.ofLines [
     "Just shipped:", "• quantum.phi - QM as types", "• ai.phi - ML as types",
     "• phi-on-qm.phi - Phi on quantum hardware", "• phi-on-ai.phi - Phi on neural networks", "",
     "The language describes what it runs on.", "The loop closes.", "",
     "github.com/eurisko-info-lab/phi"],
    Text.ofLines [
     "Looking for collaborators on Phi:", "", "- Type theory enthusiasts",
     "- Quantum computing devs", "- ML engineers tired of shape errors",
     "- Anyone who thinks programming languages can be better", "",
     "DM or check out: github.com/eurisko-info-lab/phi"],
    Text.ofLines [
     "Star ⭐ if you've ever had a shape error in PyTorch that took more than 10 minutes to fix.",
     "", "Then check out Phi, where that can't happen.", "", "github.com/eurisko-info-lab/phi"]]

/-- How many tweets are ready. -/
def librarySize : Nat := otherTweets.length + 1

/-- Answers to keywords. -/
def replyHooks : List (String × String) :=
  [("pytorch shape",
     "Phi solves this with compile-time shape checking. Tensor [32, 768] is a TYPE, not a runtime annotation. github.com/eurisko-info-lab/phi"),
   ("tensor shape error",
     "In Phi, this is a compile error, not a runtime surprise. github.com/eurisko-info-lab/phi"),
   ("qiskit",
     "Have you seen Phi's approach to quantum? Linear types enforce no-cloning at compile time. github.com/eurisko-info-lab/phi"),
   ("type safe ml",
     "Phi takes this seriously - shapes in the type system, not just runtime checks. github.com/eurisko-info-lab/phi"),
   ("programming language design",
     "Working on Phi - a meta-language where grammar = implementation. Compiles to CUDA, ONNX, quantum. github.com/eurisko-info-lab/phi")]

end Persona.Audience
