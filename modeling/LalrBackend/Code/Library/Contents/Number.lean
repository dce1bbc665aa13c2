import LalrBackend.Code.Library.Entry

/-!
# Modules for numbers and functions

What these standard modules provide, by kind. Plain values stand apart.
-/

namespace LalrBackend.Code

/-- The contents of the modules for numbers and functions. -/
def numberContents : List (String × List Family) := [
  ("numbers", [
    ⟨.routine, [.settable, .withheld], ["abstractmethod"]⟩,
    ⟨.type, [.settable, .base], ["Complex Integral Rational Real"]⟩,
    ⟨.type, [.settable, .base, .madePlain, .takesNothing], ["Number"]⟩,
    ⟨.type, [.settable, .base, .withheld], ["ABCMeta"]⟩]),
  ("math", [
    ⟨.routine, [.bare], [
      "acos asin atan2 atanh comb copysign dist fmod fsum isclose ldexp nextafter pow prod",
      "remainder"]⟩,
    ⟨.routine, [.bare, .takesNumber], [
      "acosh asinh atan cbrt ceil cos cosh degrees erf erfc exp exp2 expm1 fabs factorial floor",
      "frexp gamma isfinite isinf isnan isqrt lgamma log log10 log1p log2 modf perm radians sin",
      "sinh sqrt tan tanh trunc ulp"]⟩,
    ⟨.routine, [.bare, .takesNothing, .takesNumber], ["gcd hypot lcm"]⟩]),
  ("cmath", [
    ⟨.routine, [.bare], ["isclose rect"]⟩,
    ⟨.routine, [.bare, .takesNumber], [
      "acos acosh asin asinh atan atanh cos cosh exp isfinite isinf isnan log log10 phase polar",
      "sin sinh sqrt tan tanh"]⟩,
    ⟨.value, [.bare], ["infj nanj"]⟩]),
  ("decimal", [
    ⟨.routine, [.bare], ["setcontext"]⟩,
    ⟨.routine, [.bare, .takesNothing], ["getcontext localcontext"]⟩,
    ⟨.type, [.base, .madePlain, .takesNothing, .takesNumber], ["Decimal"]⟩,
    ⟨.type, [.base, .madeWithTwo, .madePlain, .takesNothing, .takesNumber], ["Context"]⟩,
    ⟨.type, [.settable, .base, .madeWithTwo, .madePlain,
        .raised, .takesNothing, .takesNumber, .takesList, .takesTwo], [
      "Clamped ConversionSyntax DecimalException DivisionByZero DivisionImpossible",
      "DivisionUndefined FloatOperation Inexact InvalidContext InvalidOperation Overflow",
      "Rounded Subnormal Underflow"]⟩,
    ⟨.type, [.settable, .indexed, .base], ["DecimalTuple"]⟩,
    ⟨.value, [.bare], ["BasicContext DefaultContext ExtendedContext"]⟩]),
  ("fractions", [
    ⟨.module, [.withheld], ["math numbers operator re sys"]⟩,
    ⟨.type, [.base, .madePlain, .takesNothing, .takesNumber, .withheld], ["Decimal"]⟩,
    ⟨.type, [.settable, .base, .madePlain, .takesNothing, .takesNumber], ["Fraction"]⟩]),
  ("random", [
    ⟨.routine, [.bare], [
      "betavariate gammavariate lognormvariate randint sample setstate uniform vonmisesvariate",
      "weibullvariate"]⟩,
    ⟨.routine, [.bare, .takesNumber], [
      "expovariate getrandbits paretovariate randbytes randrange"]⟩,
    ⟨.routine, [.bare, .takesList], ["choice choices shuffle"]⟩,
    ⟨.routine, [.bare, .takesNothing], ["getstate random"]⟩,
    ⟨.routine, [.bare, .takesNothing, .takesNumber], ["gauss normalvariate seed triangular"]⟩,
    ⟨.type, [.settable, .base, .madePlain, .takesNothing, .takesNumber], ["Random"]⟩,
    ⟨.type, [.settable, .base, .madePlain, .takesNothing, .takesNumber, .takesList], [
      "SystemRandom"]⟩]),
  ("statistics", [
    ⟨.module, [.withheld], ["math numbers random sys"]⟩,
    ⟨.routine, [.bare, .takesNumber, .withheld], ["erf exp fabs log sqrt"]⟩,
    ⟨.routine, [.bare, .takesNothing, .takesNumber, .withheld], ["hypot"]⟩,
    ⟨.routine, [.bare, .withheld], ["bisect_left bisect_right fsum mul reduce"]⟩,
    ⟨.routine, [.settable], [
      "correlation covariance fmean geometric_mean harmonic_mean linear_regression mean median",
      "median_grouped median_high median_low mode multimode pstdev pvariance quantiles stdev",
      "variance"]⟩,
    ⟨.routine, [.settable, .withheld], ["namedtuple"]⟩,
    ⟨.type, [.base, .madePlain, .takesNothing, .takesNumber, .withheld], ["Decimal"]⟩,
    ⟨.type, [.base, .takesNumber, .takesList, .withheld], ["repeat"]⟩,
    ⟨.type, [.base, .takesList, .withheld], ["groupby"]⟩,
    ⟨.type, [.indexed, .base, .madePlain, .takesNothing, .withheld], ["defaultdict"]⟩,
    ⟨.type, [.settable, .base, .madePlain, .takesNothing, .takesNumber], ["NormalDist"]⟩,
    ⟨.type, [.settable, .base, .madePlain, .takesNothing, .takesNumber, .withheld], ["Fraction"]⟩,
    ⟨.type, [.settable, .base, .madeWithTwo, .madePlain,
        .raised, .takesNothing, .takesNumber, .takesList, .takesTwo], ["StatisticsError"]⟩,
    ⟨.type, [.settable, .indexed, .base, .madePlain, .takesNothing, .withheld], ["Counter"]⟩,
    ⟨.type, [.settable, .indexed, .base, .takesTwo, .withheld], ["LinearRegression"]⟩]),
  ("itertools", [
    ⟨.routine, [.bare, .takesList], ["tee"]⟩,
    ⟨.type, [.base], [
      "combinations combinations_with_replacement compress dropwhile filterfalse islice starmap",
      "takewhile"]⟩,
    ⟨.type, [.base, .madePlain, .takesNothing, .takesNumber], ["count"]⟩,
    ⟨.type, [.base, .madePlain, .takesNothing, .takesList], ["product zip_longest"]⟩,
    ⟨.type, [.base, .takesNumber, .takesList], ["repeat"]⟩,
    ⟨.type, [.base, .takesList], ["accumulate cycle groupby pairwise permutations"]⟩,
    ⟨.type, [.indexed, .base, .madePlain, .takesNothing, .takesNumber, .takesList, .takesTwo], [
      "chain"]⟩]),
  ("functools", [
    ⟨.routine, [.bare], ["reduce"]⟩,
    ⟨.routine, [.bare, .takesNumber, .takesList], ["cmp_to_key"]⟩,
    ⟨.routine, [.bare, .takesNothing, .withheld], ["get_cache_token"]⟩,
    ⟨.routine, [.settable], ["cache update_wrapper"]⟩,
    ⟨.routine, [.settable, .takesNumber, .takesList], ["singledispatch total_ordering"]⟩,
    ⟨.routine, [.settable, .takesNumber, .takesList, .takesTwo], ["wraps"]⟩,
    ⟨.routine, [.settable, .takesNothing, .takesNumber], ["lru_cache"]⟩,
    ⟨.routine, [.settable, .takesNothing, .takesNumber, .takesList, .withheld], ["recursive_repr"]⟩,
    ⟨.routine, [.settable, .withheld], ["namedtuple"]⟩,
    ⟨.type, [.base, .madePlain, .takesNothing, .takesNumber, .takesList, .takesTwo, .withheld], [
      "RLock"]⟩,
    ⟨.type, [.base, .takesTwo, .withheld], ["GenericAlias"]⟩,
    ⟨.type, [.indexed, .base, .takesTwo], ["partial"]⟩,
    ⟨.type, [.settable, .base], ["singledispatchmethod"]⟩,
    ⟨.type, [.settable, .indexed, .base, .takesNumber, .takesList], ["cached_property"]⟩,
    ⟨.type, [.settable, .indexed, .base, .takesTwo], ["partialmethod"]⟩]),
  ("operator", [
    ⟨.routine, [.bare], [
      "add and_ call concat contains countOf delitem floordiv ge getitem gt iadd iand iconcat",
      "ifloordiv ilshift imatmul imod imul indexOf ior ipow irshift isub itruediv ixor le",
      "lshift lt matmul mod mul or_ pow rshift setitem sub truediv xor"]⟩,
    ⟨.routine, [.bare, .takesNumber], ["abs index inv invert neg pos"]⟩,
    ⟨.routine, [.bare, .takesNumber, .takesList], ["length_hint not_ truth"]⟩,
    ⟨.routine, [.bare, .takesTwo], ["eq is_ is_not ne"]⟩,
    ⟨.type, [], ["attrgetter methodcaller"]⟩,
    ⟨.type, [.takesNumber, .takesList, .takesTwo], ["itemgetter"]⟩])]

end LalrBackend.Code
