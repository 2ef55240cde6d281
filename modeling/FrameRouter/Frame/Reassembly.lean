import FrameRouter.Frame.Basic

/-!
# Reassembly

A receiver sees words, not frames.  It holds the words of the frame in
progress and hands out a frame whenever a terminal word arrives.
-/

namespace FrameRouter

/-- What a receiver knows after some words: complete frames and an open one. -/
structure Reassembly where
  /-- Complete frames, in arrival order. -/
  frames : List Frame
  /-- Words of the frame in progress, newest first. -/
  held : List Word
deriving DecidableEq, Repr

namespace Reassembly

/--
Cut a word stream behind every terminal word.  The first argument holds the
words of the frame that was already open, newest first.
-/
def run : List Word → List Word → Reassembly
  | held, [] => ⟨[], held⟩
  | held, word :: rest =>
      if word.last then
        let after := run [] rest
        ⟨Frame.ofWords (word :: held).reverse :: after.frames, after.held⟩
      else
        run (word :: held) rest

end Reassembly

/-- The complete frames in a word stream. -/
def Frame.ofStream (words : List Word) : List Frame := (Reassembly.run [] words).frames

end FrameRouter
