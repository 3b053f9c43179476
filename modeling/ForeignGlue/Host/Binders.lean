/-
The host half of the pointer protocol: the functions that the foreign side calls.
-/

import ForeignGlue.Context
import ForeignGlue.Source.Host

namespace ForeignGlue

open ForeignGlue.Source

namespace Context

/-- A function of the pointer protocol. -/
def binderItem (ctx : Context) (role parameters : String) (body : List String) : Item :=
  .definition
    { lead := "void ", name := ctx.linkSymbol role "", tail := parameters
      body := braced (Draft.ofList body) }

/-- The functions that the foreign side calls. Only free form tells shapes. -/
def binderItems (ctx : Context) : List Item :=
  [ctx.binderItem "setscalarpointers" "(long *i,char *p)"
     [s!"  {ctx.scalarTable}[*i].data = (char *)p;"],
   ctx.binderItem "setderivedtypepointers" "(long *i,char **p)"
     [s!"  {ctx.scalarTable}[*i].data = (char *)(*p);"],
   ctx.binderItem "setarraypointers" "(long *i,char *p)"
     [s!"  {ctx.arrayTable}[*i].data.s = (char *)p;"],
   ctx.binderItem "setarraypointersobj" "(Fortranarray *farray,char *p)"
     ["  farray->data.s = (char *)p;"],
   ctx.binderItem "setarraydims" "(Fortranarray *farray,long *dims)"
     (if ctx.isFree then
       ["  int id;",
        "  for (id=0;id<farray->nd;id++)",
        "    farray->dimensions[farray->nd-1-id] = (npy_intp)(dims[id]);"]
      else []),
   .line ""]

end Context

end ForeignGlue
