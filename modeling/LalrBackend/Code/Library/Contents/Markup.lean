import LalrBackend.Code.Library.Entry

/-!
# Modules for markup and media

What these standard modules provide, by kind. Plain values stand apart.
-/

namespace LalrBackend.Code

/-- The contents of the modules for markup and media. -/
def markupContents : List (String × List Family) := [
  ("html", [
    ⟨.module, [.withheld], ["entities"]⟩,
    ⟨.routine, [.settable], ["escape"]⟩,
    ⟨.routine, [.settable, .takesList], ["unescape"]⟩]),
  ("html.entities", [
    ⟨.value, [.bare], ["codepoint2name entitydefs html5 name2codepoint"]⟩]),
  ("html.parser", [
    ⟨.module, [.withheld], ["re"]⟩,
    ⟨.routine, [.settable, .takesList, .withheld], ["unescape"]⟩,
    ⟨.type, [.settable, .base, .madePlain, .takesNothing], ["HTMLParser"]⟩,
    ⟨.value, [.bare, .withheld], [
      "attrfind_tolerant charref commentclose endendtag endtagfind entityref incomplete",
      "interesting_normal locatestarttagend_tolerant piclose starttagopen tagfind_tolerant"]⟩]),
  ("xml", []),
  ("xml.dom", [
    ⟨.module, [], ["domreg"]⟩,
    ⟨.routine, [.settable, .takesNothing], ["getDOMImplementation"]⟩,
    ⟨.routine, [.settable, .takesTwo], ["registerDOMImplementation"]⟩,
    ⟨.type, [.settable, .base, .madePlain, .takesNothing], ["Node UserDataHandler"]⟩,
    ⟨.type, [.settable, .base, .madeWithTwo, .madePlain, .raised], ["DOMException"]⟩,
    ⟨.type, [.settable, .base, .madeWithTwo, .madePlain,
        .raised, .takesNothing, .takesNumber, .takesList, .takesTwo], [
      "DomstringSizeErr HierarchyRequestErr IndexSizeErr InuseAttributeErr InvalidAccessErr",
      "InvalidCharacterErr InvalidModificationErr InvalidStateErr NamespaceErr NoDataAllowedErr",
      "NoModificationAllowedErr NotFoundErr NotSupportedErr SyntaxErr ValidationErr",
      "WrongDocumentErr"]⟩,
    ⟨.value, [.bare], ["XHTML_NAMESPACE XMLNS_NAMESPACE XML_NAMESPACE"]⟩]),
  ("xml.dom.minidom", [
    ⟨.module, [], ["domreg io xml"]⟩,
    ⟨.routine, [.settable], ["defproperty parse parseString"]⟩,
    ⟨.routine, [.settable, .takesNothing], ["getDOMImplementation"]⟩,
    ⟨.type, [.settable, .base], ["AttributeList DocumentType Entity NamedNodeMap Notation"]⟩,
    ⟨.type, [.settable, .base, .madePlain, .takesNothing], [
      "CDATASection CharacterData Childless DOMImplementation DOMImplementationLS Document",
      "DocumentFragment DocumentLS Identified Node Text"]⟩,
    ⟨.type, [.settable, .base, .madePlain, .takesNothing, .takesNumber, .takesList], [
      "ReadOnlySequentialNamedNodeMap"]⟩,
    ⟨.type, [.settable, .base, .madeWithTwo, .takesNumber, .takesList, .takesTwo], [
      "Attr Element"]⟩,
    ⟨.type, [.settable, .base, .madeWithTwo, .takesTwo], ["ProcessingInstruction TypeInfo"]⟩,
    ⟨.type, [.settable, .base, .takesNumber, .takesList], ["Comment ElementInfo"]⟩,
    ⟨.type, [.settable, .indexed, .base, .madePlain, .takesNothing, .takesList], [
      "EmptyNodeList NodeList"]⟩,
    ⟨.value, [.bare], ["StringTypes"]⟩,
    ⟨.value, [.bare], ["XMLNS_NAMESPACE"]⟩]),
  ("xml.dom.pulldom", [
    ⟨.module, [], ["xml"]⟩,
    ⟨.routine, [.settable], ["parseString"]⟩,
    ⟨.routine, [.settable, .takesNumber, .takesList], ["parse"]⟩,
    ⟨.type, [.settable, .base], ["DOMEventStream"]⟩,
    ⟨.type, [.settable, .base, .madePlain, .takesNothing], ["ErrorHandler"]⟩,
    ⟨.type, [.settable, .base, .madePlain, .takesNothing, .takesNumber, .takesList], [
      "PullDOM SAX2DOM"]⟩]),
  ("xml.etree", []),
  ("xml.etree.ElementTree", [
    ⟨.module, [.withheld], ["ElementPath collections contextlib io re sys warnings weakref"]⟩,
    ⟨.routine, [.bare], ["SubElement"]⟩,
    ⟨.routine, [.settable], [
      "XML XMLID canonicalize dump fromstring fromstringlist indent parse register_namespace",
      "tostring tostringlist"]⟩,
    ⟨.routine, [.settable, .takesNumber], ["iterparse"]⟩,
    ⟨.routine, [.settable, .takesNumber, .takesList], ["PI ProcessingInstruction iselement"]⟩,
    ⟨.routine, [.settable, .takesNothing, .takesNumber, .takesList], ["Comment"]⟩,
    ⟨.type, [.base, .madePlain, .takesNothing], ["XMLParser"]⟩,
    ⟨.type, [.base, .madePlain, .takesNothing, .takesNumber, .takesList], ["TreeBuilder"]⟩,
    ⟨.type, [.base, .takesNumber, .takesList], ["Element"]⟩,
    ⟨.type, [.settable, .base, .madePlain, .takesNothing], ["XMLPullParser"]⟩,
    ⟨.type, [.settable, .base, .madePlain, .raised, .takesNothing, .takesNumber, .takesList], [
      "ParseError"]⟩,
    ⟨.type, [.settable, .base, .madeWithTwo,
        .madePlain, .takesNothing, .takesNumber, .takesList], ["ElementTree"]⟩,
    ⟨.type, [.settable, .base, .madeWithTwo, .takesNumber, .takesList, .takesTwo], ["QName"]⟩,
    ⟨.type, [.settable, .base, .takesNumber, .takesList], ["C14NWriterTarget"]⟩,
    ⟨.value, [.bare, .withheld], ["HTML_EMPTY"]⟩]),
  ("xml.etree.ElementInclude", [
    ⟨.module, [], ["ElementTree copy"]⟩,
    ⟨.routine, [.settable], ["default_loader include urljoin"]⟩,
    ⟨.type, [.settable, .base, .madePlain, .raised, .takesNothing, .takesNumber, .takesList], [
      "FatalIncludeError LimitedRecursiveIncludeError"]⟩,
    ⟨.value, [.bare], ["XINCLUDE XINCLUDE_FALLBACK XINCLUDE_INCLUDE"]⟩]),
  ("xml.etree.ElementPath", [
    ⟨.module, [], ["re"]⟩,
    ⟨.routine, [.settable], [
      "find findall findtext get_parent_map iterfind prepare_child prepare_descendant",
      "prepare_predicate"]⟩,
    ⟨.routine, [.settable, .takesNumber, .takesList, .takesTwo], ["xpath_tokenizer"]⟩,
    ⟨.routine, [.settable, .takesTwo], ["prepare_parent prepare_self prepare_star"]⟩,
    ⟨.value, [.bare], ["ops xpath_tokenizer_re"]⟩]),
  ("xml.parsers", []),
  ("xml.parsers.expat", [
    ⟨.module, [], ["errors model sys"]⟩,
    ⟨.routine, [.bare, .takesNumber], ["ErrorString"]⟩,
    ⟨.routine, [.bare, .takesNothing], ["ParserCreate"]⟩,
    ⟨.type, [], ["XMLParserType"]⟩,
    ⟨.type, [.settable, .base, .madeWithTwo, .madePlain,
        .raised, .takesNothing, .takesNumber, .takesList, .takesTwo], ["ExpatError error"]⟩,
    ⟨.value, [.bare], ["EXPAT_VERSION expat_CAPI features native_encoding version_info"]⟩]),
  ("pyexpat", [
    ⟨.module, [], ["errors model"]⟩,
    ⟨.routine, [.bare, .takesNumber], ["ErrorString"]⟩,
    ⟨.routine, [.bare, .takesNothing], ["ParserCreate"]⟩,
    ⟨.type, [], ["XMLParserType"]⟩,
    ⟨.type, [.settable, .base, .madeWithTwo, .madePlain,
        .raised, .takesNothing, .takesNumber, .takesList, .takesTwo], ["ExpatError error"]⟩,
    ⟨.value, [.bare], ["EXPAT_VERSION expat_CAPI features native_encoding version_info"]⟩]),
  ("xml.sax", [
    ⟨.module, [], ["handler xmlreader"]⟩,
    ⟨.routine, [.settable], ["parse parseString"]⟩,
    ⟨.routine, [.settable, .takesNothing], ["make_parser"]⟩,
    ⟨.type, [.settable, .base, .madePlain, .takesNothing], ["ContentHandler ErrorHandler"]⟩,
    ⟨.type, [.settable, .base, .madePlain, .takesNothing, .takesNumber, .takesList], [
      "InputSource"]⟩,
    ⟨.type, [.settable, .base, .madeWithTwo, .raised, .takesNumber, .takesList, .takesTwo], [
      "SAXException SAXNotRecognizedException SAXNotSupportedException SAXReaderNotAvailable"]⟩,
    ⟨.type, [.settable, .base, .raised], ["SAXParseException"]⟩]),
  ("xml.sax.expatreader", [
    ⟨.module, [], ["expat handler saxutils xmlreader"]⟩,
    ⟨.routine, [.settable, .takesNothing, .takesNumber, .takesList, .takesTwo], ["create_parser"]⟩,
    ⟨.type, [.settable, .base], ["ExpatLocator"]⟩,
    ⟨.type, [.settable, .base, .madeWithTwo, .madePlain,
        .takesNothing, .takesNumber, .takesList, .takesTwo], ["ExpatParser"]⟩,
    ⟨.type, [.settable, .base, .madeWithTwo, .takesTwo], ["AttributesNSImpl"]⟩,
    ⟨.type, [.settable, .base, .madeWithTwo, .raised, .takesNumber, .takesList, .takesTwo], [
      "SAXException SAXNotRecognizedException SAXNotSupportedException SAXReaderNotAvailable"]⟩,
    ⟨.type, [.settable, .base, .takesNumber, .takesList], ["AttributesImpl"]⟩,
    ⟨.type, [.settable, .base, .raised], ["SAXParseException"]⟩,
    ⟨.value, [.bare], [
      "feature_external_ges feature_external_pes feature_namespace_prefixes feature_namespaces",
      "feature_string_interning feature_validation property_interning_dict property_xml_string"]⟩]),
  ("xml.sax.handler", [
    ⟨.type, [.settable, .base, .madePlain, .takesNothing], [
      "ContentHandler DTDHandler EntityResolver ErrorHandler LexicalHandler"]⟩,
    ⟨.value, [.bare], ["all_features all_properties"]⟩,
    ⟨.value, [.bare], [
      "feature_external_ges feature_external_pes feature_namespace_prefixes feature_namespaces",
      "feature_string_interning feature_validation property_declaration_handler property_dom_node",
      "property_encoding property_interning_dict property_lexical_handler property_xml_string"]⟩]),
  ("xml.sax.saxutils", [
    ⟨.module, [], ["codecs handler io os urllib xmlreader"]⟩,
    ⟨.routine, [.settable], ["escape prepare_input_source quoteattr unescape"]⟩,
    ⟨.type, [.settable, .base, .madePlain, .takesNothing, .takesNumber, .takesList], [
      "XMLFilterBase"]⟩,
    ⟨.type, [.settable, .base, .madeWithTwo, .madePlain, .takesNothing], ["XMLGenerator"]⟩]),
  ("xml.sax.xmlreader", [
    ⟨.module, [], ["handler"]⟩,
    ⟨.type, [.settable, .base, .madePlain, .takesNothing], ["Locator XMLReader"]⟩,
    ⟨.type, [.settable, .base, .madePlain, .takesNothing, .takesNumber, .takesList], [
      "IncrementalParser InputSource"]⟩,
    ⟨.type, [.settable, .base, .madeWithTwo, .takesTwo], ["AttributesNSImpl"]⟩,
    ⟨.type, [.settable, .base, .madeWithTwo, .raised, .takesNumber, .takesList, .takesTwo], [
      "SAXNotRecognizedException SAXNotSupportedException"]⟩,
    ⟨.type, [.settable, .base, .takesNumber, .takesList], ["AttributesImpl"]⟩]),
  ("wave", [
    ⟨.module, [.withheld], ["builtins struct sys"]⟩,
    ⟨.routine, [.settable], ["open"]⟩,
    ⟨.routine, [.settable, .withheld], ["namedtuple"]⟩,
    ⟨.type, [.settable, .base], ["Wave_read"]⟩,
    ⟨.type, [.settable, .base, .madeWithTwo, .madePlain,
        .raised, .takesNothing, .takesNumber, .takesList, .takesTwo], ["Error"]⟩,
    ⟨.type, [.settable, .base, .takesNumber, .takesList], ["Wave_write"]⟩]),
  ("colorsys", [
    ⟨.routine, [.settable], [
      "hls_to_rgb hsv_to_rgb rgb_to_hls rgb_to_hsv rgb_to_yiq yiq_to_rgb"]⟩]),
  ("aifc", [
    ⟨.module, [.withheld], ["builtins struct warnings"]⟩,
    ⟨.routine, [.settable], ["open"]⟩,
    ⟨.routine, [.settable, .withheld], ["namedtuple"]⟩,
    ⟨.type, [.settable, .base, .madeWithTwo, .madePlain,
        .raised, .takesNothing, .takesNumber, .takesList, .takesTwo], ["Error"]⟩,
    ⟨.type, [.settable, .base, .takesNumber, .takesList, .withheld], ["Aifc_write"]⟩,
    ⟨.type, [.settable, .base, .withheld], ["Aifc_read Chunk"]⟩]),
  ("audioop", [
    ⟨.routine, [.bare], [
      "add adpcm2lin alaw2lin avg avgpp bias byteswap cross findfactor findfit findmax",
      "getsample lin2adpcm lin2alaw lin2lin lin2ulaw max maxpp minmax mul ratecv reverse rms",
      "tomono tostereo ulaw2lin"]⟩,
    ⟨.type, [.settable, .base, .madeWithTwo, .madePlain,
        .raised, .takesNothing, .takesNumber, .takesList, .takesTwo], ["error"]⟩]),
  ("chunk", [
    ⟨.module, [], ["warnings"]⟩,
    ⟨.type, [.settable, .base], ["Chunk"]⟩]),
  ("imghdr", [
    ⟨.module, [.withheld], ["warnings"]⟩,
    ⟨.routine, [.settable], ["what"]⟩,
    ⟨.routine, [.settable, .takesNothing, .withheld], ["test"]⟩,
    ⟨.routine, [.settable, .withheld], [
      "test_bmp test_exr test_gif test_jpeg test_pbm test_pgm test_png test_ppm test_rast",
      "test_rgb test_tiff test_webp test_xbm testall"]⟩,
    ⟨.type, [.settable, .indexed, .base, .withheld], ["PathLike"]⟩,
    ⟨.value, [.bare, .withheld], ["tests"]⟩]),
  ("sndhdr", [
    ⟨.module, [.withheld], ["warnings"]⟩,
    ⟨.routine, [.settable, .takesNumber], ["what whathdr"]⟩,
    ⟨.routine, [.settable, .takesNothing, .withheld], ["test"]⟩,
    ⟨.routine, [.settable, .withheld], [
      "get_long_be get_long_le get_short_be get_short_le namedtuple test_8svx test_aifc test_au",
      "test_hcom test_sndr test_sndt test_voc test_wav testall"]⟩,
    ⟨.type, [.settable, .indexed, .base, .withheld], ["SndHeaders"]⟩,
    ⟨.value, [.bare, .withheld], ["tests"]⟩]),
  ("sunau", [
    ⟨.module, [], ["warnings"]⟩,
    ⟨.routine, [.settable], ["namedtuple open"]⟩,
    ⟨.type, [.settable, .base], ["Au_read"]⟩,
    ⟨.type, [.settable, .base, .madeWithTwo, .madePlain,
        .raised, .takesNothing, .takesNumber, .takesList, .takesTwo], ["Error"]⟩,
    ⟨.type, [.settable, .base, .takesNumber, .takesList], ["Au_write"]⟩])]

end LalrBackend.Code
